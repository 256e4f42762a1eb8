import Mathlib.Data.List.Forall2
import RowParity.Generate.Insert
import RowParity.Proofs.Generate.Literal
import RowParity.Proofs.Generate.Table

/-!
# Generated rows are well-formed

A statement that adds a row is read back by a reader that knows the table and nothing else: the
names of the columns, then one complete literal for each of them, whatever texts were drawn
(`insert_readable`). A table without columns has no such statement, and no other table lacks one.
-/

namespace RowParity.Generate

/-! ## Reading -/

/-- What a statement that adds a row says: the columns it fills and their values. -/
structure Insertion where
  columns : List String
  values : List String
  deriving DecidableEq, Repr

/-- Reads a statement that adds a row to the table. Nothing may stand behind the values. -/
def Insertion.read? (table sql : String) : Option Insertion := do
  let list ← sql.toList.dropPrefix? ("INSERT INTO " ++ table ++ " (").toList
  let columns ← Sql.readList? list
  let list ← columns.2.dropPrefix? " VALUES (".toList
  let values ← Sql.readList? list
  if values.2.isEmpty then
    some ⟨columns.1.map String.ofList, values.1.map String.ofList⟩
  else none

theorem toList_insertText (table : String) (columns values : List String) :
    (insertText table columns values).toList =
      ("INSERT INTO " ++ table ++ " (").toList ++
        ([',', ' '].intercalate (columns.map String.toList) ++ ')' :: (" VALUES (".toList ++
          ([',', ' '].intercalate (values.map String.toList) ++ [')']))) := by
  have hcomma : ", ".toList = [',', ' '] := rfl
  have hmiddle : ") VALUES (".toList = ')' :: " VALUES (".toList := rfl
  have hend : ")".toList = [')'] := rfl
  unfold insertText
  simp only [String.toList_append, String.toList_intercalate, hcomma, hmiddle, hend,
    List.append_assoc, List.cons_append]

/-- **Rows are read back** if their names and values can stand in lists. -/
theorem read?_insertText (table : String) {columns values : List String} (hcolumns : columns ≠ [])
    (hvalues : values ≠ []) (hc : ∀ s ∈ columns, Sql.IsItem s.toList)
    (hv : ∀ s ∈ values, Sql.IsItem s.toList) :
    Insertion.read? table (insertText table columns values) = some ⟨columns, values⟩ := by
  have htexts : ∀ texts : List String, (texts.map String.toList).map String.ofList = texts := by
    intro texts
    simp
  have hlist : ∀ texts : List String, texts ≠ [] → (∀ s ∈ texts, Sql.IsItem s.toList) →
      ∀ rest, Sql.readList? ([',', ' '].intercalate (texts.map String.toList) ++ ')' :: rest) =
        some (texts.map String.toList, rest) := by
    intro texts hne htexts rest
    exact Sql.readList?_join (by simpa using hne) (by simpa using htexts) rest
  rw [Insertion.read?, toList_insertText, List.dropPrefix?_append_of_beq _ (by simp)]
  simp only [Option.bind_eq_bind, Option.bind_some, hlist columns hcolumns hc]
  rw [List.dropPrefix?_append_of_beq _ (by simp)]
  simp only [Option.bind_some, hlist values hvalues hv, htexts]
  rfl

/-! ## Rows of columns -/

/-- The statement adds one row to the table that fills these columns in order, each with a value of
the kind it asks for. -/
def IsRowOf (kind : Column → List Char → Prop) (table : String) (columns : List Column)
    (sql : String) : Prop :=
  ∃ values, Insertion.read? table sql = some ⟨columns.map Column.name, values⟩ ∧
    List.Forall₂ (fun column value => kind column value.toList) columns values

/-- A literal of the type of the column. -/
def IsTyped (column : Column) (cs : List Char) : Prop :=
  IsLiteralOf column.semanticType cs

/-- A literal of its type for a column of numbers or texts, and a constant for any other. -/
def IsSimple (column : Column) (cs : List Char) : Prop :=
  if column.semanticType.isNumeric || column.semanticType.isTextual then IsTyped column cs
  else IsConstant cs

theorem IsSimple.isItem {column : Column} {cs : List Char} (h : IsSimple column cs) :
    Sql.IsItem cs := by
  rw [IsSimple] at h
  split at h
  · exact IsLiteralOf.isItem h
  · exact IsConstant.isItem h

theorem simpleValue_isSimple (column : Column) (source : Random.Source) :
    IsSimple column (simpleValue column source).1.toList := by
  rw [IsSimple, simpleValue]
  by_cases hplain : (column.semanticType.isNumeric || column.semanticType.isTextual) = true
  · rw [if_pos hplain, if_pos hplain]
    exact literalOf_isLiteralOf column.semanticType source
  · rw [if_neg hplain, if_neg hplain]
    exact constant_isConstant source

section

variable {kind : Column → List Char → Prop} {f : Column → Draw String}

theorem valuesFor_cons (f : Column → Draw String) (column : Column) (columns : List Column)
    (source : Random.Source) :
    (valuesFor f (column :: columns) source).1 =
      (f column source).1 :: (valuesFor f columns (f column source).2).1 :=
  rfl

theorem exists_of_mem_forall₂ {α β : Type} {R : α → β → Prop} {as : List α} {bs : List β}
    (h : List.Forall₂ R as bs) {b : β} (hb : b ∈ bs) : ∃ a ∈ as, R a b := by
  induction h with
  | nil => cases hb
  | @cons a b' as bs hab _ ih =>
    rcases List.mem_cons.1 hb with rfl | hb
    · exact ⟨a, List.mem_cons_self, hab⟩
    · obtain ⟨a', ha', hab'⟩ := ih hb
      exact ⟨a', List.mem_cons_of_mem a ha', hab'⟩

/-- One value of its kind for each column, in order. -/
theorem valuesFor_forall₂ (hf : ∀ column source, kind column (f column source).1.toList)
    (columns : List Column) (source : Random.Source) :
    List.Forall₂ (fun column value => kind column value.toList) columns
      (valuesFor f columns source).1 := by
  induction columns generalizing source with
  | nil => exact .nil
  | cons column columns ih =>
    rw [valuesFor_cons]
    exact .cons (hf column source) (ih _)

theorem rowInsert?_eq_none (table : String) (f : Column → Draw String) (columns : List Column)
    (source : Random.Source) : (rowInsert? table f columns source).1 = none ↔ columns = [] := by
  cases columns with
  | nil => exact ⟨fun _ => rfl, fun _ => rfl⟩
  | cons column columns => exact ⟨fun h => (nomatch h), fun h => (nomatch h)⟩

theorem rowInsert?_eq_some (table : String) (f : Column → Draw String) {columns : List Column}
    (hne : columns ≠ []) (source : Random.Source) :
    (rowInsert? table f columns source).1 =
      some (insertText table (columns.map Column.name) (valuesFor f columns source).1) := by
  cases columns with
  | nil => exact absurd rfl hne
  | cons column columns => rfl

/-- The statement for columns with plain names is read back, if values of the kind can stand in
lists. -/
theorem rowInsert?_isRowOf (hf : ∀ column source, kind column (f column source).1.toList)
    (hkind : ∀ column cs, kind column cs → Sql.IsItem cs) (table : String) {columns : List Column}
    (hne : columns ≠ []) (hnames : ∀ column ∈ columns, Sql.isPlain column.name.toList = true)
    (source : Random.Source) :
    ∃ sql, (rowInsert? table f columns source).1 = some sql ∧ IsRowOf kind table columns sql := by
  have hvalues := valuesFor_forall₂ hf columns source
  refine ⟨_, rowInsert?_eq_some table f hne source, _, read?_insertText table ?_ ?_ ?_ ?_, hvalues⟩
  · simpa using hne
  · intro hnil
    rw [hnil] at hvalues
    cases hvalues
    exact hne rfl
  · intro name hname
    obtain ⟨column, hcolumn, rfl⟩ := List.mem_map.1 hname
    exact Sql.isItem_plain (hnames column hcolumn)
  · intro value hvalue
    obtain ⟨column, -, hof⟩ := exists_of_mem_forall₂ hvalues hvalue
    exact hkind column _ hof

end

/-! ## Generated statements -/

theorem insert_isRowOf {table : Table} (hne : table.columns ≠ [])
    (hnames : ∀ column ∈ table.columns, Sql.isPlain column.name.toList = true)
    (source : Random.Source) :
    ∃ sql, (insert table source).1 = some sql ∧ IsRowOf IsTyped table.name table.columns sql :=
  rowInsert?_isRowOf (fun column => literalOf_isLiteralOf column.semanticType)
    (fun _ _ h => IsLiteralOf.isItem h) table.name hne hnames source

theorem minimalInsert_isRowOf {table : Table} (hne : table.columns ≠ [])
    (hnames : ∀ column ∈ table.columns, Sql.isPlain column.name.toList = true)
    (source : Random.Source) :
    ∃ sql, (minimalInsert table source).1 = some sql ∧
      IsRowOf IsSimple table.name (table.columns.take 2) sql := by
  refine rowInsert?_isRowOf simpleValue_isSimple (fun _ _ h => h.isItem) table.name ?_ ?_ source
  · simpa using hne
  · exact fun column hcolumn => hnames column (List.mem_of_mem_take hcolumn)

/-- No supported type is sorted among the large objects. -/
theorem supportedTypes_small : ∀ type ∈ supportedTypes,
    SemanticType.ofDeclared type ≠ .blob ∧ SemanticType.ofDeclared type ≠ .clob := by
  decide

/-- **Generated rows are well-formed.** Only a table without columns has no statement that adds a
row. For every other table whose columns have plain names, both statements are read back as the
names of the columns in order and one complete literal for each, and for a generated table the
literals of the typed statement are never `NULL`. -/
theorem insert_readable :
    (∀ (table : Table) (source : Random.Source),
      ((insert table source).1 = none ↔ table.columns = []) ∧
        ((minimalInsert table source).1 = none ↔ table.columns = [])) ∧
    (∀ (table : Table) (source : Random.Source), table.columns ≠ [] →
      (∀ column ∈ table.columns, Sql.isPlain column.name.toList = true) →
      (∃ sql, (insert table source).1 = some sql ∧
        IsRowOf IsTyped table.name table.columns sql) ∧
      ∃ sql, (minimalInsert table source).1 = some sql ∧
        IsRowOf IsSimple table.name (table.columns.take 2) sql) ∧
    ∀ (name : String) (shape source : Random.Source), ∃ sql row,
      (insert (table name shape).1 source).1 = some sql ∧
        Insertion.read? name sql = some row ∧ "NULL" ∉ row.values := by
  refine ⟨fun table source => ⟨?_, ?_⟩, fun table source hne hnames => ⟨?_, ?_⟩,
    fun name shape source => ?_⟩
  · exact rowInsert?_eq_none _ _ _ _
  · rw [minimalInsert, rowInsert?_eq_none, List.take_eq_nil_iff]
    simp
  · exact insert_isRowOf hne hnames source
  · exact minimalInsert_isRowOf hne hnames source
  · obtain ⟨hname, hne, hgenerated⟩ := table_isGenerated name shape
    obtain ⟨sql, hsql, values, hread, hvalues⟩ :=
      insert_isRowOf hne (fun column hcolumn => (hgenerated column hcolumn).name) source
    rw [hname] at hread
    refine ⟨sql, _, hsql, hread, fun hnull => ?_⟩
    obtain ⟨column, hcolumn, htyped⟩ := exists_of_mem_forall₂ hvalues hnull
    have hsmall := supportedTypes_small _ (hgenerated column hcolumn).type
    rw [← (hgenerated column hcolumn).sorted] at hsmall
    rcases of_isLiteralOf_null htyped with hblob | hclob
    · exact hsmall.1 hblob
    · exact hsmall.2 hclob

/-- A table with a column of each of three kinds, of which the minimal statement fills two. -/
def visitTable : Table :=
  .plain "Visits" [.declared "id" "INTEGER", .declared "day" "DATE", .declared "note" "CHAR(10)"]

theorem insert_readable_visitTable :
    visitTable.columns ≠ [] ∧
      (∀ column ∈ visitTable.columns, Sql.isPlain column.name.toList = true) ∧
      (∃ sql, (insert visitTable (.ofSeed 3)).1 = some sql ∧
        IsRowOf IsTyped "Visits" visitTable.columns sql) ∧
      ∃ sql, (minimalInsert visitTable (.ofSeed 3)).1 = some sql ∧
        IsRowOf IsSimple "Visits" (visitTable.columns.take 2) sql := by
  have hne : visitTable.columns ≠ [] := by decide
  have hnames : ∀ column ∈ visitTable.columns, Sql.isPlain column.name.toList = true := by decide
  exact ⟨hne, hnames, insert_readable.2.1 visitTable (.ofSeed 3) hne hnames⟩

end RowParity.Generate
