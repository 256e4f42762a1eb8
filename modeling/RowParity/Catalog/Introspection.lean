import RowParity.Catalog.Schema
import RowParity.Engine.Executor
import RowParity.Sql.Quoted

/-!
# Reading a schema off a connection

Each question about the catalog has several ways to be asked, tried in order. Tables are listed from
the information schema or by `SHOW TABLES`; if neither is answered, the database counts as out of
reach. The columns of a table come from the information schema, from a pragma or, without types,
from the names of an empty result; a table about which none of them says anything is kept without
columns. A failed question about indexes means that there are none.
-/

namespace RowParity.Introspection

variable {σ : Type}

def notice (level : Level) (message : String) : Notice :=
  { level, component := .introspection, message }

/-! ## Tables -/

/-- The ways to list the tables: a label and a statement whose first column holds names. -/
def listings : List (String × String) :=
  [("information_schema.tables",
      "SELECT table_name FROM information_schema.tables WHERE table_type = 'BASE TABLE' AND " ++
        "table_schema = current_schema() ORDER BY table_name"),
    ("SHOW TABLES", "SHOW TABLES")]

def firstTexts (rows : List Row) : List String :=
  rows.filterMap (·.text? 0)

/-- Lists the tables by the first listing that is answered; `failure` is the last rejection. -/
def tableNames (x : Executor σ) :
    Option EngineError → List (String × String) → StateM (Link σ) (Except RunError (List String))
  | failure, [] =>
    let reason := (failure.map EngineError.message).getD "no table listing strategy available"
    return .error (.connectivity reason)
  | _, (label, sql) :: others => do
    match ← Link.ask .introspection sql x.fetch with
    | .ok rows => return .ok (firstTexts rows)
    | .error e =>
      Link.note (notice .warn ("Table listing via " ++ label ++ " failed: " ++ e.message))
      tableNames x (some e) others

/-- How the names of the engine's own tables start. -/
def systemOpenings : List String := ["sqlite_", "duck_", "pg_"]

def isSystemTable (name : String) : Bool :=
  systemOpenings.any fun opening => opening.toList.isPrefixOf (Text.lower name.toList)

/-- A sorted list without repetitions. -/
def withoutRepeats : List String → List String
  | a :: b :: rest => if a = b then withoutRepeats (b :: rest) else a :: withoutRepeats (b :: rest)
  | names => names

/-- The names of the tables to work on, in order and each once. -/
def workNames (names : List String) : List String :=
  withoutRepeats ((names.filter (!isSystemTable ·)).mergeSort Schema.nameLE)

/-! ## Columns -/

/-- The declared text with the length of a text column, where it names none itself. -/
def withLength (declared : String) (length : Option Int) : String :=
  match length with
  | some n =>
    if 0 < n && (SemanticType.ofDeclared declared).isTextual && !Text.contains declared "(" then
      declared ++ "(" ++ toString n ++ ")"
    else declared
  | none => declared

/-- A column in a row of name, type, length and whether it is open to `NULL`. -/
def columnOfCatalogRow? (row : Row) : Option Column := do
  let name ← row.text? 0
  let declared := withLength ((row.text? 1).getD SemanticType.varchar.sqlName) (row.length? 2)
  let nullable := ((row.text? 3).map (Text.equalIgnoringCase · "YES")).getD true
  return (Column.declared name declared).notNullIf (!nullable)

/-- A column in a row of number, name, type and whether it is closed to `NULL`. -/
def columnOfPragmaRow? (row : Row) : Option Column := do
  let name ← row.text? 1
  let declared := (row.text? 2).getD SemanticType.varchar.sqlName
  let notNull := (row[3]?.map Cell.isTrue).getD false
  return (Column.declared name declared).notNullIf notNull

/-- The statement that asks the information schema for the columns of a table. -/
def catalogQuery (table : String) : String :=
  "SELECT column_name, data_type, character_maximum_length, is_nullable " ++
    "FROM information_schema.columns WHERE table_name = " ++ Sql.literal table ++
    " AND table_schema = current_schema() ORDER BY ordinal_position"

def pragmaQuery (table : String) : String :=
  "PRAGMA table_info(" ++ Sql.literal table ++ ")"

/-- A query with all columns of a table and no row. -/
def emptyQuery (table : String) : String :=
  "SELECT * FROM " ++ Sql.identifier table ++ " LIMIT 0"

/-- A way to learn the columns of a table. -/
abbrev ColumnStrategy (σ : Type) :=
  String → StateM (Link σ) (Except EngineError (List Column))

def columnsOfCatalog (x : Executor σ) : ColumnStrategy σ := fun table => do
  let reply ← Link.ask .introspection (catalogQuery table) x.fetch
  return reply.map (·.filterMap columnOfCatalogRow?)

def columnsOfPragma (x : Executor σ) : ColumnStrategy σ := fun table => do
  let reply ← Link.ask .introspection (pragmaQuery table) x.fetch
  return reply.map (·.filterMap columnOfPragmaRow?)

/-- The columns by name only, as if they held text. -/
def columnsOfNames (x : Executor σ) : ColumnStrategy σ := fun table => do
  let reply ← Link.ask .introspection (emptyQuery table) x.columnNames
  return reply.map (·.map (Column.declared · SemanticType.varchar.sqlName))

def columnStrategies (x : Executor σ) : List (String × ColumnStrategy σ) :=
  [("information_schema.columns", columnsOfCatalog x), ("pragma table_info", columnsOfPragma x),
    ("result set names", columnsOfNames x)]

def firstColumns (table : String) :
    List (String × ColumnStrategy σ) → StateM (Link σ) (List Column)
  | [] => do
    Link.note (notice .warn ("Keeping table " ++ table ++ " without column information"))
    return []
  | (label, strategy) :: others => do
    match ← strategy table with
    | .ok [] =>
      Link.note (notice .debug ("No columns for " ++ table ++ " via " ++ label))
      firstColumns table others
    | .ok columns =>
      Link.note (notice .debug ("Columns of " ++ table ++ " read via " ++ label))
      return columns
    | .error e =>
      Link.note (notice .warn
        ("Column lookup for " ++ table ++ " via " ++ label ++ " failed: " ++ e.message))
      firstColumns table others

def columnsOf (x : Executor σ) (table : String) : StateM (Link σ) (List Column) :=
  firstColumns table (columnStrategies x)

/-! ## Indexes -/

def indexQuery (table : String) : String :=
  "SELECT index_name FROM duckdb_indexes() WHERE table_name = " ++ Sql.literal table

def indexesOf (x : Executor σ) (table : String) : StateM (Link σ) (List String) := do
  match ← Link.ask .introspection (indexQuery table) x.fetch with
  | .ok rows => return firstTexts rows
  | .error e =>
    Link.note (notice .debug
      ("Index lookup for " ++ table ++ " failed, assuming none: " ++ e.message))
    return []

/-! ## The whole schema -/

def readTables (x : Executor σ) : List String → StateM (Link σ) (List Table)
  | [] => return []
  | name :: names => do
    let columns ← columnsOf x name
    let indexes ← indexesOf x name
    return ⟨name, columns, indexes⟩ :: (← readTables x names)

/-- Reads the schema. It fails only if the tables cannot be listed. -/
def readSchema (x : Executor σ) : StateM (Link σ) (Except RunError Schema) := do
  match ← tableNames x none listings with
  | .error e => return .error e
  | .ok names => return .ok ⟨← readTables x (workNames names)⟩

end RowParity.Introspection
