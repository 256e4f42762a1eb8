import Mathlib.Data.List.Forall2
import RowParity.Proofs.Catalog.Classification
import RowParity.Proofs.Catalog.Completeness

/-!
# The sources of columns agree

An engine may be asked for the columns of a table in three ways. If it describes one table in all of
them, or rejects a question or leaves it without rows, then the columns read have the described
names in the described order, whichever answer they are read from. The first two sources also agree
on types and on what is closed to `NULL`; the third knows of names only (`columnsOf_agree`).
-/

namespace RowParity

namespace Introspection

variable {σ : Type} {table : String}

/-! ## Lookups -/

/-- The exchange told of no column. -/
def IsVain (table : String) (exchange : Exchange) : Prop :=
  ∃ source answer, ColumnSource.Tells table source exchange answer ∧ NoColumns answer

/-- A lookup for columns that found none. -/
structure IsExhausted (table : String) (sources : List ColumnSource) (exchanges : List Exchange) :
    Prop where
  asked : exchanges.map Exchange.sql = sources.map (·.sql table)
  vain : ∀ exchange ∈ exchanges, IsVain table exchange

/-- A lookup for columns that ended with the answer of the source that has them. -/
structure IsFound (table : String) (sources : List ColumnSource) (exchanges : List Exchange)
    (source : ColumnSource) (columns : List Column) : Prop where
  ne_nil : columns ≠ []
  asked : exchanges.map Exchange.sql <+: sources.map (·.sql table)
  vain : ∀ exchange ∈ exchanges.dropLast, IsVain table exchange
  told : ∃ last, exchanges.getLast? = some last ∧ source.Tells table last (.ok columns)

theorem Looked.exhausted_or_found {sources : List ColumnSource} {exchanges : List Exchange}
    {columns : List Column} (h : Looked table sources exchanges columns) :
    (columns = [] ∧ IsExhausted table sources exchanges) ∨
      ∃ source ∈ sources, IsFound table sources exchanges source columns := by
  -- A source asked in vain stands in front of everything that is known of the others.
  induction h with
  | exhausted => exact .inl ⟨rfl, rfl, List.forall_mem_nil _⟩
  | @found source _ exchange _ told hne =>
    refine .inr ⟨source, List.mem_cons_self, hne, ?_, List.forall_mem_nil _,
      exchange, rfl, told⟩
    rw [List.map_cons, List.map_nil, List.map_cons, told.sql_eq]
    exact List.cons_prefix_cons.2 ⟨rfl, List.nil_prefix⟩
  | @vain source _ exchange answer exchanges _ told hvain _ ih =>
    have hfirst : IsVain table exchange := ⟨source, answer, told, hvain⟩
    rcases ih with ⟨hcolumns, hasked, hall⟩ | ⟨found, hmem, hne, hasked, hall, last, hlast, hfound⟩
    · refine .inl ⟨hcolumns, ?_, List.forall_mem_cons.2 ⟨hfirst, hall⟩⟩
      rw [List.map_cons, List.map_cons, told.sql_eq, hasked]
    · have hexchanges : exchanges ≠ [] := by
        rintro rfl
        cases hlast
      refine .inr ⟨found, List.mem_cons_of_mem _ hmem, hne, ?_, ?_, last, ?_, hfound⟩
      · rw [List.map_cons, List.map_cons, told.sql_eq]
        exact List.cons_prefix_cons.2 ⟨rfl, hasked⟩
      · rw [List.dropLast_cons_of_ne_nil hexchanges]
        exact List.forall_mem_cons.2 ⟨hfirst, hall⟩
      · rw [List.getLast?_cons_of_ne_nil hexchanges, hlast]

end Introspection

/-! ## Descriptions -/

/-- What an engine knows of a column. -/
structure ColumnDescription where
  name : String
  /-- The declared text, if there is one. -/
  type : Option String
  notNull : Bool
  deriving DecidableEq, Repr

namespace ColumnDescription

/-- The declared text, or that of text without a length. -/
def declaredType (d : ColumnDescription) : String :=
  d.type.getD SemanticType.varchar.sqlName

def column (d : ColumnDescription) : Column :=
  ⟨d.name, d.declaredType, .ofDeclared d.declaredType, !d.notNull⟩

/-- The column if nothing but its name is known. -/
def untyped (d : ColumnDescription) : Column :=
  ⟨d.name, SemanticType.varchar.sqlName, .varchar, true⟩

def typeCell (d : ColumnDescription) : Cell :=
  match d.type with
  | some type => .text type
  | none => .null

theorem text?_typeCell (d : ColumnDescription) : d.typeCell.text? = d.type := by
  unfold typeCell
  cases d.type with
  | none => rfl
  | some type => rfl

/-- A row of the information schema for the column. -/
inductive IsCatalogRow (d : ColumnDescription) : Row → Prop
  | intro (length : Cell) :
      IsCatalogRow d [.text d.name, d.typeCell, length, .text (if d.notNull then "NO" else "YES")]

/-- A row of the pragma for the column. -/
inductive IsPragmaRow (d : ColumnDescription) : Row → Prop
  | intro (number : Cell) (rest : Row) :
      IsPragmaRow d (number :: .text d.name :: d.typeCell :: .boolean d.notNull :: rest)

/-- The column is the described one, except that a length may have been added to its declared
text. -/
structure IsReadAs (d : ColumnDescription) (column : Column) : Prop where
  name : column.name = d.name
  semanticType : column.semanticType = .ofDeclared d.declaredType
  nullable : column.nullable = !d.notNull
  declaredType : column.declaredType = d.declaredType ∨
    ∃ n : Int, 0 < n ∧ column.declaredType = d.declaredType ++ "(" ++ toString n ++ ")"

end ColumnDescription

namespace Introspection

/-! ## Reading rows -/

theorem isBalanced_toString {n : Int} (h : 0 < n) :
    SemanticType.isBalanced 0 (toString n).toList = true := by
  obtain ⟨m, rfl⟩ := Int.eq_ofNat_of_zero_le (Int.le_of_lt h)
  refine SemanticType.isBalanced_of_forall fun c hc => ?_
  have hdigit : c.isDigit = true := by
    have hrepr : (toString (m : Int)).toList = Nat.toDigits 10 m := Nat.toList_repr
    rw [hrepr] at hc
    exact Nat.isDigit_of_mem_toDigits (by decide) (by decide) hc
  constructor
  · rintro rfl
    exact absurd hdigit (by decide)
  · rintro rfl
    exact absurd hdigit (by decide)

theorem withLength_eq_or (declared : String) (length : Option Int) :
    withLength declared length = declared ∨
      ∃ n : Int, 0 < n ∧ withLength declared length = declared ++ "(" ++ toString n ++ ")" := by
  cases length with
  | none => exact .inl rfl
  | some n =>
    rw [withLength]
    split
    · next h =>
      simp only [Bool.and_eq_true, decide_eq_true_eq] at h
      exact .inr ⟨n, h.1.1, rfl⟩
    · exact .inl rfl

/-- A length does not change the type. -/
theorem ofDeclared_withLength (declared : String) (length : Option Int) :
    SemanticType.ofDeclared (withLength declared length) = .ofDeclared declared := by
  rcases withLength_eq_or declared length with h | ⟨n, hn, h⟩
  · rw [h]
  · rw [h]
    have hgroup := SemanticType.ofDeclared_append_group (isBalanced_toString hn) declared ""
    rwa [String.append_empty, String.append_empty] at hgroup

theorem columnOfCatalogRow?_isReadAs {d : ColumnDescription} {row : Row} (h : d.IsCatalogRow row) :
    ∃ column, columnOfCatalogRow? row = some column ∧ d.IsReadAs column := by
  obtain ⟨length⟩ := h
  generalize hrow : [Cell.text d.name, d.typeCell, length,
    .text (if d.notNull then "NO" else "YES")] = row
  have hname : Row.text? row 0 = some d.name := by rw [← hrow]; rfl
  have htype : Row.text? row 1 = d.type := by rw [← hrow]; exact d.text?_typeCell
  have hnull : Row.text? row 3 = some (if d.notNull then "NO" else "YES") := by rw [← hrow]; rfl
  have hyes : Text.equalIgnoringCase (if d.notNull then "NO" else "YES") "YES" = !d.notNull := by
    cases d.notNull <;> decide
  refine ⟨(Column.declared d.name (withLength d.declaredType (Row.length? row 2))).notNullIf
    (!!d.notNull), ?_, ?_⟩
  · unfold columnOfCatalogRow?
    rw [hname, htype, hnull, Option.map_some, Option.getD_some, hyes]
    rfl
  · rw [Bool.not_not, Column.notNullIf_declared, ofDeclared_withLength]
    exact ⟨rfl, by dsimp only, rfl, withLength_eq_or _ _⟩

theorem columnOfPragmaRow?_eq {d : ColumnDescription} {row : Row} (h : d.IsPragmaRow row) :
    columnOfPragmaRow? row = some d.column := by
  obtain ⟨number, rest⟩ := h
  generalize hrow : number :: Cell.text d.name :: d.typeCell :: .boolean d.notNull :: rest = row
  have hname : Row.text? row 1 = some d.name := by rw [← hrow]; rfl
  have htype : Row.text? row 2 = d.type := by rw [← hrow]; exact d.text?_typeCell
  have hnull : row[3]? = some (.boolean d.notNull) := by rw [← hrow]; rfl
  have hcolumn : (Column.declared d.name d.declaredType).notNullIf d.notNull = d.column :=
    Column.notNullIf_declared _ _ _
  unfold columnOfPragmaRow?
  rw [hname, htype, hnull, ← hcolumn]
  rfl

/-! ## Engines that describe a table -/

/-- The answer describes the table completely, by the lights of the source. -/
inductive Describes (table : String) (ds : List ColumnDescription) :
    ColumnSource → Exchange → Prop
  | catalog {rows : List Row} (h : List.Forall₂ ColumnDescription.IsCatalogRow ds rows) :
      Describes table ds .catalog (.fetched (catalogQuery table) (.ok rows))
  | pragma {rows : List Row} (h : List.Forall₂ ColumnDescription.IsPragmaRow ds rows) :
      Describes table ds .pragma (.fetched (pragmaQuery table) (.ok rows))
  | resultNames :
      Describes table ds .resultNames
        (.named (emptyQuery table) (.ok (ds.map ColumnDescription.name)))

/-- The question was rejected, or answered without rows or names. -/
def IsUnserved : Exchange → Prop
  | .fetched _ (.ok rows) => rows = []
  | .named _ (.ok names) => names = []
  | .fetched _ (.error _) | .named _ (.error _) => True

/-- Columns as the source gives them for the described ones. -/
def AreReadAs (ds : List ColumnDescription) : ColumnSource → List Column → Prop
  | .catalog, columns => List.Forall₂ ColumnDescription.IsReadAs ds columns
  | .pragma, columns => columns = ds.map ColumnDescription.column
  | .resultNames, columns => columns = ds.map ColumnDescription.untyped

theorem AreReadAs.map_name {ds : List ColumnDescription} {source : ColumnSource}
    {columns : List Column} (h : AreReadAs ds source columns) :
    columns.map Column.name = ds.map ColumnDescription.name := by
  cases source with
  | catalog =>
    induction h with
    | nil => rfl
    | cons hread _ ih => rw [List.map_cons, List.map_cons, hread.name, ih]
  | pragma =>
    rw [show columns = ds.map ColumnDescription.column from h, List.map_map]
    rfl
  | resultNames =>
    rw [show columns = ds.map ColumnDescription.untyped from h, List.map_map]
    rfl

theorem filterMap_columnOfCatalogRow? {ds : List ColumnDescription} {rows : List Row}
    (h : List.Forall₂ ColumnDescription.IsCatalogRow ds rows) :
    List.Forall₂ ColumnDescription.IsReadAs ds (rows.filterMap columnOfCatalogRow?) := by
  induction h with
  | nil => exact .nil
  | cons hrow _ ih =>
    obtain ⟨column, hcolumn, hread⟩ := columnOfCatalogRow?_isReadAs hrow
    rw [List.filterMap_cons_some hcolumn]
    exact .cons hread ih

theorem filterMap_columnOfPragmaRow? {ds : List ColumnDescription} {rows : List Row}
    (h : List.Forall₂ ColumnDescription.IsPragmaRow ds rows) :
    rows.filterMap columnOfPragmaRow? = ds.map ColumnDescription.column := by
  induction h with
  | nil => rfl
  | cons hrow _ ih =>
    rw [List.filterMap_cons_some (columnOfPragmaRow?_eq hrow), List.map_cons, ih]

theorem catalogQuery_ne_pragmaQuery (table : String) : catalogQuery table ≠ pragmaQuery table :=
  ne_of_opening (catalogQuery_opening table) (pragmaQuery_opening table) (by decide) (by decide)

theorem ofDeclared_varchar : SemanticType.ofDeclared SemanticType.varchar.sqlName = .varchar := by
  decide +kernel

/-- What is read of a complete description, whatever source it is taken for. -/
theorem Describes.answer {ds : List ColumnDescription} {source source' : ColumnSource}
    {exchange : Exchange} {answer : Except EngineError (List Column)}
    (h : Describes table ds source exchange)
    (told : ColumnSource.Tells table source' exchange answer) :
    source' = source ∧ ∃ columns, answer = .ok columns ∧ AreReadAs ds source columns := by
  -- The questions differ, so no answer can be taken for that of another source.
  cases h with
  | catalog hrows =>
    generalize hexchange : Exchange.fetched (catalogQuery table) _ = exchange at told
    cases told with
    | catalog =>
      obtain ⟨-, rfl⟩ := Exchange.fetched.inj hexchange
      exact ⟨rfl, _, rfl, filterMap_columnOfCatalogRow? hrows⟩
    | pragma =>
      exact absurd (Exchange.fetched.inj hexchange).1 (catalogQuery_ne_pragmaQuery table)
    | resultNames => cases hexchange
  | pragma hrows =>
    generalize hexchange : Exchange.fetched (pragmaQuery table) _ = exchange at told
    cases told with
    | catalog =>
      exact absurd (Exchange.fetched.inj hexchange).1.symm (catalogQuery_ne_pragmaQuery table)
    | pragma =>
      obtain ⟨-, rfl⟩ := Exchange.fetched.inj hexchange
      exact ⟨rfl, _, rfl, filterMap_columnOfPragmaRow? hrows⟩
    | resultNames => cases hexchange
  | resultNames =>
    cases told with
    | resultNames =>
      refine ⟨rfl, _, rfl, ?_⟩
      have huntyped (d : ColumnDescription) :
          Column.declared d.name SemanticType.varchar.sqlName = d.untyped := by
        rw [Column.declared, ofDeclared_varchar, ColumnDescription.untyped]
      refine (List.map_map).trans ?_
      exact List.map_congr_left fun d _ => huntyped d

theorem IsUnserved.noColumns {source : ColumnSource} {exchange : Exchange}
    {answer : Except EngineError (List Column)} (h : IsUnserved exchange)
    (told : source.Tells table exchange answer) : NoColumns answer := by
  cases told with
  | @catalog reply | @pragma reply | @resultNames reply =>
    cases reply with
    | error e => trivial
    | ok rows =>
      rw [show rows = [] from h]
      rfl

/-- **The sources agree.** The sources are asked in order; the first that tells of columns is the
last one asked, and there are none only if all were asked in vain. If every question was left
unserved or answered with a complete description, then the columns have the described names in
order, and are the described ones as far as the source knows. -/
theorem columnsOf_agree (x : Executor σ) (table : String) (link : Link σ) :
    ∃ exchanges, Exchanged x link exchanges (columnsOf x table link).2 ∧
      (((columnsOf x table link).1 = [] ∧ IsExhausted table ColumnSource.all exchanges) ∨
        ∃ source, IsFound table ColumnSource.all exchanges source (columnsOf x table link).1) ∧
      ∀ ds ≠ [], (∀ exchange ∈ exchanges,
          IsUnserved exchange ∨ ∃ source, Describes table ds source exchange) →
        ((columnsOf x table link).1 = [] ∧ ∀ exchange ∈ exchanges, IsUnserved exchange) ∨
          ∃ source, IsFound table ColumnSource.all exchanges source (columnsOf x table link).1 ∧
            (columnsOf x table link).1.map Column.name = ds.map ColumnDescription.name ∧
            AreReadAs ds source (columnsOf x table link).1 := by
  obtain ⟨exchanges, hexchanged, hlooked⟩ := columnsOf_follows x table link
  generalize (columnsOf x table link).1 = columns at hlooked
  refine ⟨exchanges, hexchanged, ?_, fun ds hds hserved => ?_⟩
  · exact hlooked.exhausted_or_found.imp_right fun ⟨source, _, hfound⟩ => ⟨source, hfound⟩
  rcases hlooked.exhausted_or_found with ⟨hcolumns, hexhausted⟩ | ⟨source, -, hfound⟩
  · refine .inl ⟨hcolumns, fun exchange hexchange => ?_⟩
    rcases hserved exchange hexchange with hunserved | ⟨source, hdescribes⟩
    · exact hunserved
    -- A complete description names columns, so it was not in vain.
    obtain ⟨source', answer, told, hvain⟩ := hexhausted.vain exchange hexchange
    obtain ⟨-, columns, rfl, hread⟩ := hdescribes.answer told
    have hnames := hread.map_name
    rw [show columns = [] from hvain] at hnames
    exact absurd (List.map_eq_nil_iff.1 hnames.symm) hds
  · obtain ⟨last, hlast, told⟩ := hfound.told
    rcases hserved last (List.mem_of_getLast? hlast) with hunserved | ⟨source', hdescribes⟩
    · exact absurd (hunserved.noColumns told) hfound.ne_nil
    · obtain ⟨rfl, columns', hanswer, hread⟩ := hdescribes.answer told
      cases hanswer
      exact .inr ⟨source, hfound, hread.map_name, hread⟩

/-- An engine without an information schema, of one table with two columns. -/
def pragmaEngine : Executor Unit where
  execute sql := pure ⟨.error (.statement sql "read only"), []⟩
  fetch sql := pure ⟨if sql = pragmaQuery "t" then
      .ok [[.integer .int 0, .text "id", .text "INTEGER", .boolean true],
        [.integer .int 1, .text "note", .null, .boolean false]]
    else .error (.statement sql "no such table"), []⟩
  columnNames sql := pure ⟨.error (.statement sql "no such table"), []⟩
  isAlive := pure true

/-- The pragma takes the place of the information schema. -/
theorem columnsOf_agree_pragmaEngine :
    (columnsOf pragmaEngine "t" ⟨(), {}, #[]⟩).1.map Column.name = ["id", "note"] := by
  obtain ⟨exchanges, hexchanged, -, hagree⟩ := columnsOf_agree pragmaEngine "t" ⟨(), {}, #[]⟩
  have hserved : ∀ exchange ∈ exchanges, IsUnserved exchange ∨ ∃ source,
      Describes "t" [⟨"id", some "INTEGER", true⟩, ⟨"note", none, false⟩] source exchange := by
    intro exchange hexchange
    obtain ⟨engine, hanswer⟩ := hexchanged.isAnswerOf exchange hexchange
    cases exchange with
    | named sql reply =>
      subst hanswer
      exact .inl trivial
    | fetched sql reply =>
      subst hanswer
      simp only [pragmaEngine]
      split
      · next hsql =>
        rw [hsql]
        exact .inr ⟨.pragma, .pragma (.cons (.intro _ _) (.cons (.intro _ _) .nil))⟩
      · exact .inl trivial
  rcases hagree _ (List.cons_ne_nil _ _) hserved with ⟨hnil, -⟩ | ⟨_, _, hnames, -⟩
  · exact absurd hnil (by decide +kernel)
  · exact hnames

end Introspection

end RowParity
