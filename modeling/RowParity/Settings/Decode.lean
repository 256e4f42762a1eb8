import RowParity.Document.Tree
import RowParity.Settings.Basic

/-!
# Settings from a document

Each setting stands in a section, under its name if the section is a table, at its place if the
section is a list. Scalars are converted where they can be; a missing setting is an error where it
has no default of its own. Other names and further items are of no account.
-/

namespace RowParity.Settings

abbrev Decode (α : Type) := Except SettingsError α

/-! ## Fields -/

/-- What a section is made of. -/
inductive Fields where
  | named (entries : List (String × Tree))
  /-- A list with the settings in their order. -/
  | listed (items : List Tree)

/-- A setting within its section. -/
structure Field where
  group : String
  place : Nat
  name : String

namespace Fields

/-- The fields of the section that stands under a key. -/
def ofTree (key : String) : Tree → Decode Fields
  | .table entries => .ok (.named entries)
  | .list items => .ok (.listed items)
  | _ => .error (.wrongForm key)

def value? (fields : Fields) (field : Field) : Option Tree :=
  match fields with
  | named entries => Tree.entry? field.name entries
  | listed items => items[field.place]?

/-- The key of an item of what stands under a key. -/
def itemKey (key : String) (i : Nat) : String :=
  key ++ "[" ++ toString i ++ "]"

def keyOf (fields : Fields) (field : Field) : String :=
  match fields with
  | named _ => field.group ++ "." ++ field.name
  | listed _ => itemKey field.group field.place

/-- What is wrong where a field is missing: a list is too short as a whole. -/
def absence (fields : Fields) (field : Field) : SettingsError :=
  match fields with
  | named _ => .missing (fields.keyOf field)
  | listed _ => .wrongForm field.group

def required (fields : Fields) (field : Field) : Decode Tree :=
  match fields.value? field with
  | some tree => .ok tree
  | none => .error (fields.absence field)

/-- The value of a field that a table may leave out. -/
def optional (fields : Fields) (field : Field) : Decode Tree :=
  match fields with
  | named _ => .ok ((fields.value? field).getD .nil)
  | listed _ => fields.required field

def convert {α : Type} (fields : Fields) (field : Field) (read : Tree → Option α) (tree : Tree) :
    Decode α :=
  match read tree with
  | some a => .ok a
  | none => .error (.wrongType (fields.keyOf field))

/-- A value as what it stands for, where nothing may stand. -/
def convertOptional {α : Type} (fields : Fields) (field : Field) (read : Tree → Option α) :
    Tree → Decode (Option α)
  | .nil => .ok none
  | tree => (fields.convert field read tree).map some

end Fields

namespace Field

def required {α : Type} (field : Field) (read : Tree → Option α) (fields : Fields) : Decode α := do
  fields.convert field read (← fields.required field)

def optional {α : Type} (field : Field) (read : Tree → Option α) (fields : Fields) :
    Decode (Option α) := do
  fields.convertOptional field read (← fields.optional field)

end Field

/-! ## Oracles -/

/-- The name of a kind of oracle, which may stand as the only key of a table. -/
def oracle? : Tree → Option OracleKind
  | .text name => OracleKind.ofName? name
  | .table [(name, _)] => OracleKind.ofName? name
  | _ => none

/-- The oracles at the places of a list from `i` on. -/
def oraclesFrom (key : String) : Nat → List Tree → Decode (List OracleKind)
  | _, [] => .ok []
  | i, tree :: trees =>
    match oracle? tree with
    | none => .error (.wrongForm (Fields.itemKey key i))
    | some kind => (oraclesFrom key (i + 1) trees).map (kind :: ·)

def oracles (field : Field) (fields : Fields) : Decode (List OracleKind) := do
  let key := fields.keyOf field
  match ← fields.required field with
  | .list trees => oraclesFrom key 0 trees
  | _ => .error (.wrongForm key)

/-! ## Sections -/

def decodeDatabase (tree : Tree) : Decode DatabaseSettings := do
  let fields ← Fields.ofTree "database" tree
  let field := Field.mk "database"
  return {
    connection := ← (field 0 "connection_string").required Tree.toText? fields
    poolSize := ← (field 1 "pool_size").required Tree.toWord32? fields }

def decodeFuzz (tree : Tree) : Decode FuzzSettings := do
  let fields ← Fields.ofTree "fuzz" tree
  let field := Field.mk "fuzz"
  return {
    seed := ← (field 0 "seed").optional Tree.toWord64? fields
    databases := ← (field 1 "num_databases").required Tree.toWord64? fields
    queriesPerDatabase := ← (field 2 "queries_per_database").required Tree.toWord64? fields
    timeoutSeconds := ← (field 3 "timeout_secs").optional Tree.toWord64? fields
    oracles := ← oracles (field 4 "oracles") fields
    mutationProbability := ← (field 5 "mutation_probability").required Tree.toDouble? fields
    requireRows := ← (field 6 "require_rows").required Tree.toBoolean? fields }

/-- Reads the settings about logging. All of them may be left out, of a list as well. -/
def decodeLogging (tree : Tree) : Decode LoggingSettings := do
  let fields ← Fields.ofTree "logging" tree
  let file : Field := ⟨"logging", 0, "error_log_file"⟩
  let json : Field := ⟨"logging", 1, "json"⟩
  return {
    errorLogFile :=
      ← fields.convertOptional file Tree.toText? ((fields.value? file).getD .nil)
    json := ← fields.convert json Tree.toBoolean? ((fields.value? json).getD (.boolean false)) }

def decodeReport (tree : Tree) : Decode (Option String) := do
  let fields ← Fields.ofTree "report" tree
  (Field.mk "report" 0 "path").optional Tree.toText? fields

def requiredSection {α : Type} (entries : List (String × Tree)) (name : String)
    (decode : Tree → Decode α) : Decode α :=
  match Tree.entry? name entries with
  | none => .error (.missing name)
  | some tree => decode tree

def optionalSection {α : Type} (entries : List (String × Tree)) (name : String) (default : α)
    (decode : Tree → Decode α) : Decode α :=
  match Tree.entry? name entries with
  | none => .ok default
  | some tree => decode tree

def decode (entries : List (String × Tree)) : Decode Settings := do
  return {
    database := ← requiredSection entries "database" decodeDatabase
    fuzz := ← requiredSection entries "fuzz" decodeFuzz
    logging := ← optionalSection entries "logging" {} decodeLogging
    reportPath := ← optionalSection entries "report" none decodeReport }

end RowParity.Settings
