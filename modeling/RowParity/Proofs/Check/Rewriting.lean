import RowParity.Check.Comparison
import RowParity.Proofs.Sql.Select

/-!
# The two forms of a query

The query that a check draws on a table is one of the grammar, on the column that the table prefers;
its rewritten form is the same query with the tautology added, so both have the same answers over
every content of the database.
-/

namespace RowParity

/-- The first numeric column, or the first column of a table without numeric ones. -/
def Table.Prefers (table : Table) (column : Column) : Prop :=
  (∃ before after, table.columns = before ++ column :: after ∧
    column.semanticType.isNumeric = true ∧ ∀ c ∈ before, c.semanticType.isNumeric = false) ∨
  ((∀ c ∈ table.columns, c.semanticType.isNumeric = false) ∧ table.columns.head? = some column)

/-- Table and columns have names that can stand in a query. -/
structure Table.HasIdentifiers (table : Table) : Prop where
  name : Sql.isIdentifier table.name.toList = true
  columns : ∀ column ∈ table.columns, Sql.isIdentifier column.name.toList = true

/-- A table with columns has a column for queries, the one it prefers. -/
theorem Table.queryColumn?_eq_some {table : Table} (h : table.columns ≠ []) :
    ∃ column ∈ table.columns, table.queryColumn? = some column ∧ table.Prefers column := by
  unfold queryColumn?
  cases hfind : table.columns.find? (·.semanticType.isNumeric) with
  | some column =>
    obtain ⟨hnumeric, before, after, hcolumns, hbefore⟩ := List.find?_eq_some_iff_append.1 hfind
    have hfirst : ∀ c ∈ before, c.semanticType.isNumeric = false :=
      fun c hc => by simpa using hbefore c hc
    exact ⟨column, List.mem_of_find?_eq_some hfind, rfl,
      .inl ⟨before, after, hcolumns, hnumeric, hfirst⟩⟩
  | none =>
    have hnone := List.find?_eq_none.1 hfind
    have hhead := List.head?_eq_some_head h
    exact ⟨table.columns.head h, List.head_mem h, hhead, .inr ⟨by simpa using hnone, hhead⟩⟩

namespace Check

/-- The query on a column of a table, with a filter if one was tossed for and the column is
numeric. -/
def selectOn (table : Table) (column : Column) (tossed : Bool) : Sql.Select where
  column := column.name
  table := table.name
  filter := if tossed && column.semanticType.isNumeric then [.positive] else []

theorem text_selectOn (table : Table) (column : Column) (tossed : Bool) :
    (selectOn table column tossed).text =
      if tossed && column.semanticType.isNumeric then
        Generate.selectText column.name table.name ++ Generate.positiveFilter column.name
      else Generate.selectText column.name table.name := by
  apply String.toList_injective
  rw [Sql.Select.text, String.toList_ofList, selectOn, Sql.Select.pieces]
  cases tossed && column.semanticType.isNumeric with
  | true =>
    simp only [Sql.filterPieces, Sql.Atom.pieces, Sql.furtherPieces, Text.unwords,
      Generate.selectText, Generate.positiveFilter, String.toList_append, if_true,
      List.cons_append, List.nil_append, List.flatMap_nil, List.append_assoc]
    rfl
  | false =>
    simp only [Sql.filterPieces, Text.unwords, Generate.selectText, String.toList_append,
      Bool.false_eq_true, if_false, List.append_nil, List.append_assoc]
    rfl

theorem queryOn_apply {table : Table} {column : Column} (h : table.queryColumn? = some column)
    (source : Random.Source) :
    queryOn table source =
      (.ok (selectOn table column (Random.coin source).1).text, (Random.coin source).2) := by
  have hbase : Generate.baseQuery table source =
      (some (selectOn table column (Random.coin source).1).text, (Random.coin source).2) := by
    rw [Generate.baseQuery, h, text_selectOn]
    rfl
  unfold queryOn
  show StateT.bind _ _ source = _
  unfold StateT.bind
  rw [hbase]
  rfl

/-- A text on a table and its rewritten form, read as `q` and `q'`: the same query on the column
that the table prefers, with one more condition, `1=1`, and with the same answers. -/
structure Preserved (table : Table) (text : String) (column : Column) (q q' : Sql.Select) :
    Prop where
  prefers : table.Prefers column
  read : Sql.Select.read? text = some q
  rewritten : Sql.Select.read? (Sql.withTautology text) = some q'
  onTable : q.table = table.name ∧ q'.table = table.name
  onColumn : q.column = column.name ∧ q'.column = column.name
  /-- Only a numeric column is filtered. -/
  filter : q.filter = [] ∨ q.filter = [.positive] ∧ column.semanticType.isNumeric = true
  added : q'.filter = q.filter ++ [.tautology]
  /-- Whatever the tables hold, and wherever a column is positive, not positive or unknown. -/
  answer : ∀ (ρ : Type) (content : String → List ρ) (positive : String → ρ → Sql.Truth),
    q'.answer content positive = q.answer content positive

/-- **The rewrite preserves meaning.** On a table with columns and plain names every draw gives a
query of the grammar, and rewriting keeps what it means. -/
theorem queryOn_preserved {table : Table} (hcolumns : table.columns ≠ [])
    (hnames : table.HasIdentifiers) (source : Random.Source) :
    ∃ text source' column q q', queryOn table source = (.ok text, source') ∧
      Preserved table text column q q' := by
  obtain ⟨column, hmem, hcolumn, hprefers⟩ := Table.queryColumn?_eq_some hcolumns
  let q := selectOn table column (Random.coin source).1
  have hnamed : q.IsNamed := ⟨hnames.columns column hmem, hnames.name⟩
  have hnamed' : q.add.IsNamed := ⟨hnamed.column, hnamed.table⟩
  refine ⟨q.text, _, column, q, q.add, queryOn_apply hcolumn source, hprefers,
    Sql.Select.read?_text hnamed, ?_, ⟨rfl, rfl⟩, ⟨rfl, rfl⟩, ?_, rfl, ?_⟩
  · rw [Sql.Select.withTautology_text hnamed]
    exact Sql.Select.read?_text hnamed'
  · cases hfilter : (Random.coin source).1 && column.semanticType.isNumeric with
    | true =>
      refine .inr ⟨?_, (Bool.and_eq_true_iff.1 hfilter).2⟩
      simp only [q, selectOn, hfilter, if_true]
    | false =>
      refine .inl ?_
      simp only [q, selectOn, hfilter, Bool.false_eq_true, if_false]
  · exact fun ρ content positive => Sql.Select.answer_add content positive q

/-- A table whose first numeric column is not its first one. -/
def noteTable : Table :=
  .plain "notes" [.declared "wherever" "VARCHAR(50)", .declared "_id" "INTEGER"]

theorem queryOn_preserved_noteTable :
    noteTable.columns ≠ [] ∧ noteTable.HasIdentifiers ∧
      ∃ text source' column q q', queryOn noteTable (.ofSeed 7) = (.ok text, source') ∧
        Preserved noteTable text column q q' := by
  have hcolumns : noteTable.columns ≠ [] := by decide
  have hnames : noteTable.HasIdentifiers := ⟨by decide, by decide⟩
  exact ⟨hcolumns, hnames, queryOn_preserved hcolumns hnames (.ofSeed 7)⟩

end Check

end RowParity
