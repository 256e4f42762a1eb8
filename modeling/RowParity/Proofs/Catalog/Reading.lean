import RowParity.Proofs.Catalog.Exchange

/-!
# How a schema is read

The laws of the introspection, without links and executors: which exchanges listing the tables,
looking up the columns and looking up the indexes consist of, and what is read of the answers.
`readSchema_follows` says that every run obeys them (`SchemaRead`), whatever is answered. The names
of tables and indexes are told by the answered rows themselves (`Names`).
-/

namespace RowParity.Introspection

variable {σ : Type} {x : Executor σ}

/-! ## Names -/

/-- The names that rows give, in order: each is the text of a first cell. A row whose first cell is
`NULL`, or that has no cell, gives none. -/
inductive Names : List Row → List String → Prop
  | nil : Names [] []
  | text {name : String} {cells : Row} {rows : List Row} {names : List String}
      (rest : Names rows names) : Names ((.text name :: cells) :: rows) (name :: names)
  /-- What is no text gives the text that stands for it in logs. -/
  | other {cell : Cell} {cells : Row} {rows : List Row} {names : List String}
      (hnull : cell ≠ .null) (htext : ∀ name, cell ≠ .text name) (rest : Names rows names) :
      Names ((cell :: cells) :: rows) (cell.plain :: names)
  | null {cells : Row} {rows : List Row} {names : List String} (rest : Names rows names) :
      Names ((.null :: cells) :: rows) names
  | empty {rows : List Row} {names : List String} (rest : Names rows names) :
      Names ([] :: rows) names

theorem names_firstTexts (rows : List Row) : Names rows (firstTexts rows) := by
  induction rows with
  | nil => exact .nil
  | cons row rows ih =>
    cases row with
    | nil => exact .empty ih
    | cons cell cells =>
      cases cell with
      | null => exact .null ih
      | text name => exact .text ih
      | _ => exact .other Cell.noConfusion (fun _ => Cell.noConfusion) ih

/-- Rows leave no choice of their names. -/
theorem Names.eq_firstTexts {rows : List Row} {names : List String} (h : Names rows names) :
    names = firstTexts rows := by
  induction h with
  | nil => rfl
  | text _ ih => exact congrArg _ ih
  | @other cell _ _ _ hnull _ _ ih =>
    rw [ih]
    cases cell with
    | null => exact absurd rfl hnull
    | _ => rfl
  | null _ ih => exact ih
  | empty _ ih => exact ih

/-! ## Listings -/

/-- The tables were listed: all listings up to one were rejected, and that one was answered with
rows that give the names. -/
inductive Listed : List String → List Exchange → List String → Prop
  | answered {sql : String} {sqls : List String} {rows : List Row} {names : List String}
      (named : Names rows names) : Listed (sql :: sqls) [.fetched sql (.ok rows)] names
  | rejected {sql : String} {sqls : List String} {e : EngineError} {exchanges : List Exchange}
      {names : List String} (rest : Listed sqls exchanges names) :
      Listed (sql :: sqls) (.fetched sql (.error e) :: exchanges) names

/-- The names are those in the rows of a listing that was answered. -/
theorem Listed.exists_rows {sqls names : List String} {exchanges : List Exchange}
    (h : Listed sqls exchanges names) :
    ∃ sql ∈ sqls, ∃ rows, Exchange.fetched sql (.ok rows) ∈ exchanges ∧ Names rows names := by
  induction h with
  | answered named => exact ⟨_, List.mem_cons_self, _, List.mem_cons_self, named⟩
  | rejected _ ih =>
    obtain ⟨sql, hsql, rows, hrows, named⟩ := ih
    exact ⟨sql, List.mem_cons_of_mem _ hsql, rows, List.mem_cons_of_mem _ hrows, named⟩

inductive Unlisted : List String → List Exchange → Prop
  | nil : Unlisted [] []
  | cons {sql : String} {sqls : List String} {e : EngineError} {exchanges : List Exchange}
      (rest : Unlisted sqls exchanges) :
      Unlisted (sql :: sqls) (.fetched sql (.error e) :: exchanges)

/-- The tables were listed, or no listing was answered and the database counts as out of reach. -/
def ListingResult (sqls : List String) (exchanges : List Exchange) :
    Except RunError (List String) → Prop
  | .ok names => Listed sqls exchanges names
  | .error e => Unlisted sqls exchanges ∧ ∃ reason, e = .connectivity reason

theorem tableNames_follows (failure : Option EngineError) (listings : List (String × String)) :
    Link.Follows x (ListingResult (listings.map Prod.snd)) (tableNames x failure listings) := by
  induction listings generalizing failure with
  | nil => exact .pure ⟨.nil, _, rfl⟩
  | cons listing others ih =>
    obtain ⟨label, sql⟩ := listing
    rw [tableNames]
    refine .bind (.fetch sql) fun exchanges reply hexchanges => ?_
    subst hexchanges
    cases reply with
    | ok rows => exact .pure (.answered (names_firstTexts rows))
    | error e =>
      refine .note ((ih (some e)).imp fun exchanges result hresult => ?_)
      cases result with
      | ok names => exact .rejected hresult
      | error failure => exact ⟨.cons hresult.1, hresult.2⟩

/-! ## Columns -/

inductive ColumnSource where
  | catalog
  | pragma
  | resultNames
  deriving DecidableEq, Repr

namespace ColumnSource

def all : List ColumnSource :=
  [catalog, pragma, resultNames]

def sql (table : String) : ColumnSource → String
  | catalog => catalogQuery table
  | pragma => pragmaQuery table
  | resultNames => emptyQuery table

/-- An exchange with the source, and what it says of the columns. -/
inductive Tells (table : String) :
    ColumnSource → Exchange → Except EngineError (List Column) → Prop
  | catalog {reply : Except EngineError (List Row)} :
      Tells table .catalog (.fetched (catalogQuery table) reply)
        (reply.map (·.filterMap columnOfCatalogRow?))
  | pragma {reply : Except EngineError (List Row)} :
      Tells table .pragma (.fetched (pragmaQuery table) reply)
        (reply.map (·.filterMap columnOfPragmaRow?))
  | resultNames {reply : Except EngineError (List String)} :
      Tells table .resultNames (.named (emptyQuery table) reply)
        (reply.map (·.map (Column.declared · SemanticType.varchar.sqlName)))

theorem Tells.sql_eq {table : String} {source : ColumnSource} {exchange : Exchange}
    {answer : Except EngineError (List Column)} (h : source.Tells table exchange answer) :
    exchange.sql = source.sql table := by
  cases h with
  | catalog => rfl
  | pragma => rfl
  | resultNames => rfl

/-- The source answered, and all columns come from its answer. -/
theorem Tells.ok_cases {table : String} {source : ColumnSource} {exchange : Exchange}
    {columns : List Column} (h : source.Tells table exchange (.ok columns)) :
    (∃ rows, exchange = .fetched (catalogQuery table) (.ok rows) ∧
        columns = rows.filterMap columnOfCatalogRow?) ∨
      (∃ rows, exchange = .fetched (pragmaQuery table) (.ok rows) ∧
        columns = rows.filterMap columnOfPragmaRow?) ∨
      ∃ names, exchange = .named (emptyQuery table) (.ok names) ∧
        columns = names.map (Column.declared · SemanticType.varchar.sqlName) := by
  generalize hanswer : (Except.ok columns : Except EngineError (List Column)) = answer at h
  cases h with
  | @catalog reply =>
    cases reply with
    | error _ => cases hanswer
    | ok rows => exact .inl ⟨rows, rfl, Except.ok.inj hanswer⟩
  | @pragma reply =>
    cases reply with
    | error _ => cases hanswer
    | ok rows => exact .inr (.inl ⟨rows, rfl, Except.ok.inj hanswer⟩)
  | @resultNames reply =>
    cases reply with
    | error _ => cases hanswer
    | ok names => exact .inr (.inr ⟨names, rfl, Except.ok.inj hanswer⟩)

/-- The source as a strategy, with its label. -/
def strategy (x : Executor σ) : ColumnSource → String × ColumnStrategy σ
  | catalog => ("information_schema.columns", columnsOfCatalog x)
  | pragma => ("pragma table_info", columnsOfPragma x)
  | resultNames => ("result set names", columnsOfNames x)

theorem strategy_follows (table : String) (source : ColumnSource) :
    Link.Follows x (fun exchanges columns => ∃ e, exchanges = [e] ∧ Tells table source e columns)
      ((source.strategy x).2 table) := by
  cases source with
  | catalog =>
    refine .bind (.fetch _) fun exchanges reply hexchanges => .pure ⟨_, ?_, .catalog⟩
    rw [hexchanges, List.append_nil]
  | pragma =>
    refine .bind (.fetch _) fun exchanges reply hexchanges => .pure ⟨_, ?_, .pragma⟩
    rw [hexchanges, List.append_nil]
  | resultNames =>
    refine .bind (.columnNames _) fun exchanges reply hexchanges => .pure ⟨_, ?_, .resultNames⟩
    rw [hexchanges, List.append_nil]

end ColumnSource

/-- No column came out: the question was rejected, or its answer names none. -/
def NoColumns : Except EngineError (List Column) → Prop
  | .ok columns => columns = []
  | .error _ => True

/-- The columns of a table were looked up: the sources were asked in order up to the first one that
told of any column. -/
inductive Looked (table : String) : List ColumnSource → List Exchange → List Column → Prop
  | exhausted : Looked table [] [] []
  | found {source : ColumnSource} {others : List ColumnSource} {exchange : Exchange}
      {columns : List Column} (told : source.Tells table exchange (.ok columns))
      (hne : columns ≠ []) : Looked table (source :: others) [exchange] columns
  | vain {source : ColumnSource} {others : List ColumnSource} {exchange : Exchange}
      {answer : Except EngineError (List Column)} {exchanges : List Exchange}
      {columns : List Column} (told : source.Tells table exchange answer)
      (hvain : NoColumns answer) (rest : Looked table others exchanges columns) :
      Looked table (source :: others) (exchange :: exchanges) columns

theorem firstColumns_follows (table : String) (sources : List ColumnSource) :
    Link.Follows x (Looked table sources)
      (firstColumns table (sources.map (ColumnSource.strategy x))) := by
  induction sources with
  | nil => exact .note (.pure .exhausted)
  | cons source others ih =>
    rw [List.map_cons, firstColumns]
    refine .bind (source.strategy_follows table) fun exchanges columns hexchanges => ?_
    obtain ⟨exchange, rfl, htold⟩ := hexchanges
    match columns with
    | .ok [] => exact .note (ih.imp fun _ _ => .vain htold rfl)
    | .ok (column :: columns) => exact .note (.pure (.found htold (List.cons_ne_nil _ _)))
    | .error e => exact .note (ih.imp fun _ _ => .vain htold trivial)

theorem columnsOf_follows (x : Executor σ) (table : String) :
    Link.Follows x (Looked table ColumnSource.all) (columnsOf x table) :=
  firstColumns_follows table ColumnSource.all

/-! ## Tables -/

/-- The indexes of a table were read: those that the answered rows name, or none if the question
about them was rejected. -/
inductive IndexesRead : Except EngineError (List Row) → List String → Prop
  | answered {rows : List Row} {names : List String} (named : Names rows names) :
      IndexesRead (.ok rows) names
  | rejected {e : EngineError} : IndexesRead (.error e) []

theorem indexesOf_follows (x : Executor σ) (table : String) :
    Link.Follows x (fun exchanges indexes => ∃ reply,
        exchanges = [.fetched (indexQuery table) reply] ∧ IndexesRead reply indexes)
      (indexesOf x table) := by
  refine .bind (.fetch _) fun exchanges reply hexchanges => ?_
  subst hexchanges
  cases reply with
  | ok rows => exact .pure ⟨.ok rows, rfl, .answered (names_firstTexts rows)⟩
  | error e => exact .note (.pure ⟨.error e, rfl, .rejected⟩)

/-- A table was read: first its columns, then its indexes. -/
inductive TableRead : List Exchange → Table → Prop
  | intro {name : String} {columns : List Column} {indexes : List String}
      {exchanges : List Exchange} {reply : Except EngineError (List Row)}
      (looked : Looked name ColumnSource.all exchanges columns)
      (indexed : IndexesRead reply indexes) :
      TableRead (exchanges ++ [.fetched (indexQuery name) reply]) ⟨name, columns, indexes⟩

inductive TablesRead : List Exchange → List Table → Prop
  | nil : TablesRead [] []
  | cons {exchanges others : List Exchange} {table : Table} {tables : List Table}
      (read : TableRead exchanges table) (rest : TablesRead others tables) :
      TablesRead (exchanges ++ others) (table :: tables)

theorem readTables_follows (x : Executor σ) (names : List String) :
    Link.Follows x (fun exchanges tables =>
      tables.map Table.name = names ∧ TablesRead exchanges tables) (readTables x names) := by
  induction names with
  | nil => exact .pure ⟨rfl, .nil⟩
  | cons name names ih =>
    refine .bind (columnsOf_follows x name) fun exchanges columns hlooked => ?_
    refine .bind (indexesOf_follows x name) fun exchanges' indexes hindexes => ?_
    obtain ⟨reply, rfl, hindexed⟩ := hindexes
    refine .bind ih fun others tables htables => .pure ?_
    rw [List.append_nil, ← List.append_assoc]
    exact ⟨by rw [List.map_cons, htables.1], .cons (.intro hlooked hindexed) htables.2⟩

/-! ## Schemas -/

/-- A schema was read: the tables were listed, and then those to work on were read. Or no listing
was answered, and nothing else was asked. -/
inductive SchemaRead : List Exchange → Except RunError Schema → Prop
  | read {listing lookups : List Exchange} {names : List String} {tables : List Table}
      (listed : Listed (listings.map Prod.snd) listing names)
      (named : tables.map Table.name = workNames names) (tablesRead : TablesRead lookups tables) :
      SchemaRead (listing ++ lookups) (.ok ⟨tables⟩)
  | unlisted {exchanges : List Exchange} {reason : String}
      (h : Unlisted (listings.map Prod.snd) exchanges) :
      SchemaRead exchanges (.error (.connectivity reason))

/-- **Every reading of a schema obeys the law.** -/
theorem readSchema_follows (x : Executor σ) : Link.Follows x SchemaRead (readSchema x) := by
  refine .bind (tableNames_follows none listings) fun exchanges result hresult => ?_
  cases result with
  | error e =>
    obtain ⟨hunlisted, reason, rfl⟩ := hresult
    refine .pure ?_
    rw [List.append_nil]
    exact .unlisted hunlisted
  | ok names =>
    refine .bind (readTables_follows x (workNames names)) fun others tables htables => .pure ?_
    rw [List.append_nil]
    exact .read hresult htables.1 htables.2

end RowParity.Introspection
