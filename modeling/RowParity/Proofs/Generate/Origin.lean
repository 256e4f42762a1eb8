import RowParity.Check.Comparison
import RowParity.Proofs.Check.Course
import RowParity.Proofs.Generate.Insert
import RowParity.Proofs.Sql.Bare
import RowParity.Proofs.Sql.Embedding
import RowParity.Workload.Filling
import RowParity.Workload.Mutation

/-!
# Where statements come from

The statements of a session are generated, each from a table or from the schema: `Table.YieldsRow`
are the rows of a table, `Schema.Asks` the queries of checks and `Schema.Yields` everything that
work on a schema sends. Generated statements are bare; of the schema this takes no more than plain
names of its tables (`Schema.Yields.isBare`).
-/

namespace RowParity

/-- The statement creates a generated table. -/
def IsCreation (sql : String) : Prop :=
  ∃ name source, sql = (Generate.table name source).1.createStatement

/-- The statement adds a row generated for the table, in the full or in the minimal form. -/
inductive Table.YieldsRow (table : Table) (sql : String) : Prop
  | full {source : Random.Source} (drawn : (Generate.insert table source).1 = some sql)
  | minimal {source : Random.Source} (drawn : (Generate.minimalInsert table source).1 = some sql)

/-- The query is drawn for a check, or is the rewritten form of one. -/
inductive Schema.Asks (schema : Schema) : String → Prop
  | base {source : Random.Source} {sql : String}
      (drawn : (Check.drawQuery schema source).1 = .ok sql) : Asks schema sql
  | rewritten {source : Random.Source} {sql : String}
      (drawn : (Check.drawQuery schema source).1 = .ok sql) : Asks schema (Sql.withTautology sql)

/-- The statement is generated from the schema. -/
inductive Schema.Yields (schema : Schema) : String → Prop
  | counted {table : Table} (member : table ∈ schema.tables) :
      Yields schema (Action.countQuery table.name)
  | row {table : Table} {sql : String} (member : table ∈ schema.tables)
      (drawn : table.YieldsRow sql) : Yields schema sql
  | update {source : Random.Source} {sql : String}
      (drawn : (Generate.update schema source).1 = some sql) : Yields schema sql
  | asked {sql : String} (h : schema.Asks sql) : Yields schema sql
  | explained {sql : String} (h : schema.Asks sql) : Yields schema ("EXPLAIN " ++ sql)

/-- Every table has a name that is a plain identifier. -/
def Schema.HasPlainTables (schema : Schema) : Prop :=
  ∀ table ∈ schema.tables, Sql.isPlain table.name.toList = true

open Sql

/-! ## Tables and rows -/

theorem Table.createStatement_isBare (table : Table) : IsBare table.createStatement := by
  refine isBare_append ?_ ⟨[], ')', rfl, by decide, by decide⟩
  exact opens_append (opens_append (opens_append ⟨'C', _, rfl, by decide⟩ _) _) _

theorem IsCreation.isBare {sql : String} (h : IsCreation sql) : IsBare sql := by
  obtain ⟨name, source, rfl⟩ := h
  exact Table.createStatement_isBare _

namespace Generate

theorem insertText_isBare (table : String) (columns values : List String) :
    IsBare (insertText table columns values) := by
  unfold insertText
  refine isBare_append ?_ ⟨[], ')', rfl, by decide, by decide⟩
  exact opens_append (opens_append (opens_append (opens_append (opens_append
    ⟨'I', _, rfl, by decide⟩ _) _) _) _) _

theorem rowInsert?_some {table : String} {f : Column → Draw String} {columns : List Column}
    {source : Random.Source} {sql : String}
    (h : (rowInsert? table f columns source).1 = some sql) :
    columns ≠ [] ∧ ∃ values, sql = insertText table (columns.map Column.name) values := by
  have hne : columns ≠ [] := fun hnil => by
    rw [(rowInsert?_eq_none table f columns source).2 hnil] at h
    cases h
  rw [rowInsert?_eq_some table f hne source] at h
  exact ⟨hne, _, (Option.some.inj h).symm⟩

end Generate

/-- A row names the table and some of its columns. -/
theorem Table.YieldsRow.eq_insertText {table : Table} {sql : String} (h : table.YieldsRow sql) :
    ∃ columns values, sql = Generate.insertText table.name columns values := by
  cases h with
  | full drawn =>
    obtain ⟨-, values, hsql⟩ := Generate.rowInsert?_some drawn
    exact ⟨_, values, hsql⟩
  | minimal drawn =>
    obtain ⟨-, values, hsql⟩ := Generate.rowInsert?_some drawn
    exact ⟨_, values, hsql⟩

theorem Table.YieldsRow.isBare {table : Table} {sql : String} (h : table.YieldsRow sql) :
    IsBare sql := by
  obtain ⟨columns, values, rfl⟩ := h.eq_insertText
  exact Generate.insertText_isBare _ _ _

/-! ## Literals and conditions -/

namespace Generate

theorem closes_numeral {cs : List Char} (h : Number.IsNumeral cs) : Closes cs :=
  closes_of_wordChars h.ne_nil fun c hc => isWordChar_of_isDigit (h.digits c hc)

theorem IsWhole.closes {low high : Int} {cs : List Char} (h : IsWhole low high cs) :
    Closes cs := by
  obtain ⟨n, hread, -⟩ := h
  obtain ⟨sign, digits, rfl, -, hdigits⟩ := Number.of_readWhole? hread
  exact (closes_numeral hdigits).append sign

theorem IsFixed.closes {places : Nat} (hplaces : places ≠ 0) {cs : List Char}
    (h : IsFixed places cs) : Closes cs := by
  obtain ⟨sign, whole, fraction, rfl, -, -, hlength, hdigits⟩ := h
  have hne : fraction ≠ [] := by
    rintro rfl
    exact hplaces hlength.symm
  have hfraction := closes_numeral ⟨hne, hdigits⟩
  have hpoint : Closes ('.' :: fraction) := hfraction.append ['.']
  exact hpoint.append (sign ++ whole)

theorem IsQuoted.closes {kind : List Char → Prop} {cs : List Char} (h : IsQuoted kind cs) :
    Closes cs := by
  obtain ⟨value, hread, -⟩ := h
  rw [readQuoted?_eq_some hread, List.append_nil]
  exact closes_enclosed (by decide) (by decide) value

theorem IsMarked.closes {keyword : String} {kind : List Char → Prop} {cs : List Char}
    (h : IsMarked keyword kind cs) : Closes cs := by
  obtain ⟨quoted, rfl, hquoted⟩ := h
  have hblank : Closes (' ' :: quoted) := hquoted.closes.append [' ']
  exact hblank.append keyword.toList

theorem IsLiteralOf.closes {ty : SemanticType} {cs : List Char} (h : IsLiteralOf ty cs) :
    Closes cs := by
  cases ty with
  | integer | smallInt | bigInt => exact IsWhole.closes h
  | double | float | real | decimal | numeric => exact IsFixed.closes (by decide) h
  | varchar | char => exact IsQuoted.closes h
  | date | time | timestamp => exact IsMarked.closes h
  | boolean =>
    rcases h with rfl | rfl
    · exact closes_of_isPlain (by decide)
    · exact closes_of_isPlain (by decide)
  | blob | clob =>
    cases h
    exact closes_of_isPlain (by decide)

theorem predicate_closes (column : Column) (source : Random.Source) :
    Closes (predicate column source).1.toList := by
  by_cases htextual : column.semanticType.isTextual = true
  · rw [predicate_textual htextual]
    refine closes_append ?_ _
    rw [literal, String.toList_ofList]
    exact closes_enclosed (by decide) (by decide) _
  · rw [predicate_not_textual htextual]
    exact closes_append (literalOf_isLiteralOf _ source).closes _

/-- A condition is drawn for a column of the table that came up. -/
theorem anyPredicate_some {schema : Schema} {source : Random.Source} {table : Table}
    {filter : String} (h : (anyPredicate schema source).1 = some (table, filter)) :
    (schema.anyTable source).1 = some table ∧
      ∃ tested ∈ table.columns, ∃ source', filter = (predicate tested source').1 := by
  rw [anyPredicate, Draw.bind_apply] at h
  rcases hany : schema.anyTable source with ⟨_ | any, source₁⟩ <;> rw [hany] at h
  · cases h
  · dsimp only at h
    rw [Draw.bind_apply] at h
    rcases hcolumn : any.anyColumn source₁ with ⟨_ | tested, source₂⟩ <;> rw [hcolumn] at h
    · cases h
    · cases h
      exact ⟨rfl, tested, Random.choose_mem (congrArg Prod.fst hcolumn), source₂, rfl⟩

/-- An update is put together from the table that came up, two of its columns, a literal for the one
and a condition on the other. -/
theorem update_some {schema : Schema} {source : Random.Source} {sql : String}
    (h : (update schema source).1 = some sql) :
    ∃ table, (schema.anyTable source).1 = some table ∧
      ∃ target ∈ table.columns, ∃ tested ∈ table.columns, ∃ source₁ source₂,
        sql = updateText table.name target.name (literalOf target.semanticType source₁).1
          (predicate tested source₂).1 := by
  rw [update, Draw.bind_apply] at h
  rcases hfilter : anyPredicate schema source with ⟨_ | ⟨table, filter⟩, source₁⟩ <;>
    rw [hfilter] at h
  · cases h
  · dsimp only at h
    rw [Draw.bind_apply] at h
    rcases hcolumn : table.anyColumn source₁ with ⟨_ | target, source₂⟩ <;> rw [hcolumn] at h
    · cases h
    · cases h
      obtain ⟨htable, tested, htested, source', rfl⟩ :=
        anyPredicate_some (congrArg Prod.fst hfilter)
      have htarget : target ∈ table.columns := Random.choose_mem (congrArg Prod.fst hcolumn)
      exact ⟨table, htable, target, htarget, tested, htested, source₂, source', rfl⟩

theorem update_isBare {schema : Schema} {source : Random.Source} {sql : String}
    (h : (update schema source).1 = some sql) : IsBare sql := by
  obtain ⟨table, -, target, -, tested, -, source₁, source₂, rfl⟩ := update_some h
  refine isBare_append ?_ (predicate_closes tested source₂)
  exact opens_append (opens_append (opens_append (opens_append (opens_append
    (opens_append ⟨'U', _, rfl, by decide⟩ _) _) _) _) _) _

end Generate

/-! ## Queries -/

theorem Action.countQuery_isBare {table : String} (h : isPlain table.toList = true) :
    IsBare (countQuery table) :=
  isBare_append ⟨'S', _, rfl, by decide⟩ (closes_of_isPlain h)

namespace Generate

theorem selectText_isBare (column : String) {table : String} (h : isPlain table.toList = true) :
    IsBare (selectText column table) :=
  isBare_append (opens_append (opens_append ⟨'S', _, rfl, by decide⟩ _) _) (closes_of_isPlain h)

theorem baseQuery_isBare {table : Table} (h : isPlain table.name.toList = true)
    {source : Random.Source} {sql : String} (hdrawn : (baseQuery table source).1 = some sql) :
    IsBare sql := by
  rw [baseQuery] at hdrawn
  cases hcolumn : table.queryColumn? with
  | none =>
    rw [hcolumn] at hdrawn
    cases hdrawn
  | some column =>
    rw [hcolumn] at hdrawn
    have hselect := selectText_isBare column.name h
    have hfilter : Closes (positiveFilter column.name).toList :=
      closes_append ⟨" > ".toList, '0', rfl, by decide, by decide⟩ _
    cases hdrawn
    split
    · exact isBare_append hselect.opens hfilter
    · exact hselect

end Generate

namespace Schema

variable {schema : Schema} (hplain : schema.HasPlainTables) {sql : String}

include hplain

theorem drawQuery_isBare {source : Random.Source}
    (h : (Check.drawQuery schema source).1 = .ok sql) : IsBare sql := by
  rw [Check.drawQuery_eq] at h
  rcases htable : schema.anyTable source with ⟨_ | table, source₁⟩ <;> rw [htable] at h
  · cases h
  · dsimp only at h
    rw [Check.queryOn_eq] at h
    have hmember : table ∈ schema.tables := Random.choose_mem (congrArg Prod.fst htable)
    rcases hbase : Generate.baseQuery table source₁ with ⟨_ | base, source₂⟩ <;> rw [hbase] at h
    · cases h
    · cases h
      exact Generate.baseQuery_isBare (hplain table hmember) (congrArg Prod.fst hbase)

theorem Asks.isBare (h : schema.Asks sql) : IsBare sql := by
  cases h with
  | base drawn => exact drawQuery_isBare hplain drawn
  | rewritten drawn => exact (drawQuery_isBare hplain drawn).withTautology

/-- **Generated statements are bare.** -/
theorem Yields.isBare (h : schema.Yields sql) : IsBare sql := by
  cases h with
  | counted member => exact Action.countQuery_isBare (hplain _ member)
  | row _ drawn => exact drawn.isBare
  | update drawn => exact Generate.update_isBare drawn
  | asked h => exact h.isBare hplain
  | explained h => exact (h.isBare hplain).explained

end Schema

end RowParity
