import RowParity.Catalog.Schema
import RowParity.Check.Oracle
import RowParity.Json.Record

/-!
# Stored schemas

Schemas and the names of oracles as JSON. What is written is read back.
-/

namespace RowParity

open Json (Value)

/-! ## Semantic types -/

def SemanticType.toJson (ty : SemanticType) : Value :=
  .ofText ty.storedName

def SemanticType.ofJson? (v : Value) : Option SemanticType :=
  v.caseName?.bind SemanticType.ofStoredName?

@[simp] theorem SemanticType.ofJson?_toJson (ty : SemanticType) :
    SemanticType.ofJson? ty.toJson = some ty := by
  cases ty <;> rfl

/-! ## Columns -/

def Column.toJson (column : Column) : Value :=
  .record [("name", .ofText column.name), ("declared_type", .ofText column.declaredType),
    ("semantic_type", column.semanticType.toJson), ("nullable", .boolean column.nullable)]

def Column.ofJson? (v : Value) : Option Column := do
  match ← v.fields? ["name", "declared_type", "semantic_type", "nullable"] with
  | [name, declared, ty, nullable] =>
    return ⟨← name.text?, ← declared.text?, ← SemanticType.ofJson? ty, ← nullable.boolean?⟩
  | _ => none

/-! ## Tables -/

def indexToJson (name : String) : Value :=
  .record [("name", .ofText name)]

def indexOfJson? (v : Value) : Option String := do
  match ← v.fields? ["name"] with
  | [name] => name.text?
  | _ => none

def Table.toJson (table : Table) : Value :=
  .record [("name", .ofText table.name), ("columns", .ofList Column.toJson table.columns),
    ("indexes", .ofList indexToJson table.indexes)]

def Table.ofJson? (v : Value) : Option Table := do
  match ← v.fields? ["name", "columns", "indexes"] with
  | [name, columns, indexes] =>
    return ⟨← name.text?, ← columns.listOf? Column.ofJson?, ← indexes.listOf? indexOfJson?⟩
  | _ => none

/-! ## Schemas -/

def Schema.toJson (schema : Schema) : Value :=
  .record [("tables", .ofList Table.toJson schema.tables)]

def Schema.ofJson? (v : Value) : Option Schema := do
  match ← v.fields? ["tables"] with
  | [tables] => return ⟨← tables.listOf? Table.ofJson?⟩
  | _ => none

/-! ## Oracles -/

def OracleKind.toJson (kind : OracleKind) : Value :=
  .ofText kind.name

def OracleKind.ofJson? (v : Value) : Option OracleKind :=
  v.caseName?.bind OracleKind.ofName?

@[simp] theorem OracleKind.ofJson?_toJson (kind : OracleKind) :
    OracleKind.ofJson? kind.toJson = some kind := by
  cases kind
  rfl

/-! ## Reading what was written -/

@[simp] theorem Column.ofJson?_toJson (column : Column) :
    Column.ofJson? column.toJson = some column := by
  simp [Column.ofJson?, Column.toJson, Value.record, Value.fields?, Value.member?, Value.ofText,
    Value.text?, Value.boolean?]

@[simp] theorem indexOfJson?_indexToJson (name : String) :
    indexOfJson? (indexToJson name) = some name := by
  simp [indexOfJson?, indexToJson, Value.record, Value.fields?, Value.member?, Value.ofText,
    Value.text?]

@[simp] theorem Table.ofJson?_toJson (table : Table) :
    Table.ofJson? table.toJson = some table := by
  simp [Table.ofJson?, Table.toJson, Value.record, Value.fields?, Value.member?, Value.ofText,
    Value.text?, Value.listOf?_ofList Column.ofJson?_toJson,
    Value.listOf?_ofList indexOfJson?_indexToJson]

@[simp] theorem Schema.ofJson?_toJson (schema : Schema) :
    Schema.ofJson? schema.toJson = some schema := by
  simp [Schema.ofJson?, Schema.toJson, Value.record, Value.fields?, Value.member?,
    Value.listOf?_ofList Table.ofJson?_toJson]

end RowParity
