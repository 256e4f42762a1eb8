import Mathlib.Data.List.Sort
import RowParity.Proofs.Catalog.Reading
import RowParity.Proofs.Sql.Quoted

/-!
# No table is lost

Once the tables have been listed, the schema that is read holds all that the answered rows name and
that are not the engine's own, in ascending order and each once, whatever becomes of the lookups
that follow (`readSchema_complete`). What fails is missing from its own table only: a table without
answers has no columns or no indexes.
-/

namespace RowParity

namespace Introspection

variable {σ : Type}

/-! ## Names -/

theorem mem_withoutRepeats {name : String} {names : List String} :
    name ∈ withoutRepeats names ↔ name ∈ names := by
  fun_induction withoutRepeats names with
  | case1 a rest ih => rw [ih]; simp
  | case2 a b rest hne ih => rw [List.mem_cons, ih, ← List.mem_cons]
  | case3 names => rfl

/-- An ordered list without repetitions is strictly ascending. -/
theorem withoutRepeats_ascending {names : List String} (h : names.Pairwise (· ≤ ·)) :
    (withoutRepeats names).Pairwise (· < ·) := by
  fun_induction withoutRepeats names with
  | case1 a rest ih => exact ih (List.pairwise_cons.1 h).2
  | case2 a b rest hne ih =>
    obtain ⟨hfirst, hothers⟩ := List.pairwise_cons.1 h
    refine List.pairwise_cons.2 ⟨fun c hc => ?_, ih hothers⟩
    -- Everything that follows is at least `b`, and `a` stands strictly before `b`.
    have hab : a < b := String.not_le.1 fun hba =>
      hne (String.le_antisymm (hfirst b List.mem_cons_self) hba)
    rcases List.mem_cons.1 (mem_withoutRepeats.1 hc) with rfl | hc
    · exact hab
    · exact String.not_le.1 fun hca =>
        String.not_le.2 hab (String.le_trans ((List.pairwise_cons.1 hothers).1 c hc) hca)
  | case3 names hshort =>
    match names with
    | [] => exact List.Pairwise.nil
    | [a] => exact List.pairwise_singleton _ a
    | a :: b :: rest => exact absurd rfl (hshort a b rest)

theorem nameLE_trans (a b c : String) (hab : Schema.nameLE a b = true)
    (hbc : Schema.nameLE b c = true) : Schema.nameLE a c = true := by
  simp only [Schema.nameLE, decide_eq_true_eq] at hab hbc ⊢
  exact String.le_trans hab hbc

theorem nameLE_total (a b : String) : (Schema.nameLE a b || Schema.nameLE b a) = true := by
  simp only [Schema.nameLE, Bool.or_eq_true, decide_eq_true_eq]
  exact String.le_total a b

theorem workNames_ascending (names : List String) : (workNames names).Pairwise (· < ·) := by
  have hordered := List.pairwise_mergeSort nameLE_trans nameLE_total
    (names.filter (!isSystemTable ·))
  exact withoutRepeats_ascending (hordered.imp fun h => of_decide_eq_true h)

theorem mem_workNames {name : String} {names : List String} :
    name ∈ workNames names ↔ name ∈ names ∧ isSystemTable name = false := by
  rw [workNames, mem_withoutRepeats, List.mem_mergeSort, List.mem_filter, Bool.not_eq_true']

theorem isSystemTable_eq_false {name : String} :
    isSystemTable name = false ↔
      ∀ opening ∈ systemOpenings, ¬opening.toList <+: Text.lower name.toList := by
  simp [isSystemTable, List.any_eq_false]

/-! ## Columns -/

theorem columnOfCatalogRow?_typedAsDeclared {row : Row} {column : Column}
    (h : columnOfCatalogRow? row = some column) :
    column.semanticType = .ofDeclared column.declaredType := by
  rw [columnOfCatalogRow?] at h
  simp only [Option.bind_eq_bind, Option.bind_eq_some_iff] at h
  obtain ⟨name, -, h⟩ := h
  rw [← Option.some.inj h, Column.notNullIf_declared]

theorem columnOfPragmaRow?_typedAsDeclared {row : Row} {column : Column}
    (h : columnOfPragmaRow? row = some column) :
    column.semanticType = .ofDeclared column.declaredType := by
  rw [columnOfPragmaRow?] at h
  simp only [Option.bind_eq_bind, Option.bind_eq_some_iff] at h
  obtain ⟨name, -, h⟩ := h
  rw [← Option.some.inj h, Column.notNullIf_declared]

/-- Whatever source a column comes from, its type is read off its declaration. -/
theorem ColumnSource.Tells.typedAsDeclared {table : String} {source : ColumnSource}
    {exchange : Exchange} {columns : List Column}
    (h : source.Tells table exchange (.ok columns)) :
    ∀ column ∈ columns, column.semanticType = .ofDeclared column.declaredType := by
  intro column hcolumn
  rcases h.ok_cases with ⟨rows, -, rfl⟩ | ⟨rows, -, rfl⟩ | ⟨names, -, rfl⟩
  · obtain ⟨row, -, hrow⟩ := List.mem_filterMap.1 hcolumn
    exact columnOfCatalogRow?_typedAsDeclared hrow
  · obtain ⟨row, -, hrow⟩ := List.mem_filterMap.1 hcolumn
    exact columnOfPragmaRow?_typedAsDeclared hrow
  · obtain ⟨name, -, rfl⟩ := List.mem_map.1 hcolumn
    rw [Column.declared]

theorem Looked.typedAsDeclared {table : String} {sources : List ColumnSource}
    {exchanges : List Exchange} {columns : List Column}
    (h : Looked table sources exchanges columns) :
    ∀ column ∈ columns, column.semanticType = .ofDeclared column.declaredType := by
  induction h with
  | exhausted => exact List.forall_mem_nil _
  | found told _ => exact told.typedAsDeclared
  | vain _ _ _ ih => exact ih

/-! ## Indexes -/

/-- The question for the indexes of a table names the table. -/
theorem indexQuery_injective {table table' : String} (h : indexQuery table = indexQuery table') :
    table = table' :=
  Sql.literal_injective (String.append_right_inj _ |>.1 h)

/-- Texts that open differently are different. -/
theorem ne_of_opening {s t : String} {opening opening' : List Char}
    (hs : opening <+: s.toList) (ht : opening' <+: t.toList)
    (hlength : opening.length ≤ opening'.length) (hne : ¬opening <+: opening') : s ≠ t := by
  rintro rfl
  exact hne (List.prefix_of_prefix_length_le hs ht hlength)

theorem catalogQuery_opening (table : String) :
    "SELECT c".toList <+: (catalogQuery table).toList := by
  unfold catalogQuery
  rw [String.append_assoc, String.append_assoc, String.toList_append]
  exact List.IsPrefix.trans (by decide) (List.prefix_append _ _)

theorem pragmaQuery_opening (table : String) :
    "PRAGMA t".toList <+: (pragmaQuery table).toList := by
  unfold pragmaQuery
  rw [String.append_assoc, String.toList_append]
  exact List.IsPrefix.trans (by decide) (List.prefix_append _ _)

theorem indexQuery_opening (table : String) :
    "SELECT i".toList <+: (indexQuery table).toList := by
  unfold indexQuery
  rw [String.toList_append]
  exact List.IsPrefix.trans (by decide) (List.prefix_append _ _)

theorem catalogQuery_ne_indexQuery (table table' : String) :
    catalogQuery table ≠ indexQuery table' :=
  ne_of_opening (catalogQuery_opening table) (indexQuery_opening table') (by decide) (by decide)

theorem pragmaQuery_ne_indexQuery (table table' : String) :
    pragmaQuery table ≠ indexQuery table' :=
  ne_of_opening (pragmaQuery_opening table) (indexQuery_opening table') (by decide) (by decide)

theorem ColumnSource.Tells.ne_fetched_indexQuery {name : String} {source : ColumnSource}
    {exchange : Exchange} {answer : Except EngineError (List Column)}
    (h : source.Tells name exchange answer) (table : String)
    (reply : Except EngineError (List Row)) : exchange ≠ .fetched (indexQuery table) reply := by
  intro heq
  cases h with
  | catalog => exact catalogQuery_ne_indexQuery name table (Exchange.fetched.inj heq).1
  | pragma => exact pragmaQuery_ne_indexQuery name table (Exchange.fetched.inj heq).1
  | resultNames => cases heq

/-- No question for the columns of a table is one for indexes. -/
theorem Looked.not_fetched_indexQuery {name : String} {sources : List ColumnSource}
    {exchanges : List Exchange} {columns : List Column}
    (h : Looked name sources exchanges columns) (table : String)
    (reply : Except EngineError (List Row)) :
    Exchange.fetched (indexQuery table) reply ∉ exchanges := by
  induction h with
  | exhausted => exact List.not_mem_nil
  | found told _ =>
    rw [List.mem_singleton]
    exact (told.ne_fetched_indexQuery table reply).symm
  | vain told _ _ ih =>
    rw [List.mem_cons, not_or]
    exact ⟨(told.ne_fetched_indexQuery table reply).symm, ih⟩

/-! ## Tables -/

namespace TableRead

variable {exchanges : List Exchange} {table : Table}

theorem typedAsDeclared (h : TableRead exchanges table) :
    ∀ column ∈ table.columns, column.semanticType = .ofDeclared column.declaredType := by
  cases h with
  | intro looked => exact looked.typedAsDeclared

theorem asked (h : TableRead exchanges table) :
    ∃ reply, Exchange.fetched (indexQuery table.name) reply ∈ exchanges := by
  cases h with
  | @intro _ _ _ _ reply => exact ⟨reply, List.mem_append_right _ List.mem_cons_self⟩

/-- The only question for indexes is the one for those of the table. -/
theorem of_fetched (h : TableRead exchanges table) {name : String}
    {reply : Except EngineError (List Row)}
    (hfetched : Exchange.fetched (indexQuery name) reply ∈ exchanges) :
    table.name = name ∧ IndexesRead reply table.indexes := by
  cases h with
  | intro looked indexed =>
    -- The lookups for columns ask no such question, so only the last exchange is left.
    rcases List.mem_append.1 hfetched with hcolumns | hindexes
    · exact absurd hcolumns (looked.not_fetched_indexQuery name reply)
    · obtain ⟨hquery, rfl⟩ := Exchange.fetched.inj (List.mem_singleton.1 hindexes)
      exact ⟨(indexQuery_injective hquery).symm, indexed⟩

end TableRead

namespace TablesRead

variable {exchanges : List Exchange} {tables : List Table}

theorem typedAsDeclared (h : TablesRead exchanges tables) :
    ∀ table ∈ tables, ∀ column ∈ table.columns,
      column.semanticType = .ofDeclared column.declaredType := by
  induction h with
  | nil => exact List.forall_mem_nil _
  | cons read _ ih => exact List.forall_mem_cons.2 ⟨read.typedAsDeclared, ih⟩

theorem asked (h : TablesRead exchanges tables) :
    ∀ table ∈ tables, ∃ reply, Exchange.fetched (indexQuery table.name) reply ∈ exchanges := by
  induction h with
  | nil => exact List.forall_mem_nil _
  | cons read _ ih =>
    refine List.forall_mem_cons.2 ⟨?_, fun table htable => ?_⟩
    · exact read.asked.imp fun _ hreply => List.mem_append_left _ hreply
    · exact (ih table htable).imp fun _ hreply => List.mem_append_right _ hreply

theorem of_fetched (h : TablesRead exchanges tables) {name : String}
    {reply : Except EngineError (List Row)}
    (hfetched : Exchange.fetched (indexQuery name) reply ∈ exchanges) :
    ∃ table ∈ tables, table.name = name ∧ IndexesRead reply table.indexes := by
  induction h with
  | nil => exact absurd hfetched List.not_mem_nil
  | cons read _ ih =>
    rcases List.mem_append.1 hfetched with hfirst | hothers
    · exact ⟨_, List.mem_cons_self, read.of_fetched hfirst⟩
    · obtain ⟨table, htable, hnamed⟩ := ih hothers
      exact ⟨table, List.mem_cons_of_mem _ htable, hnamed⟩

end TablesRead

/-- Tables with ascending names are told apart by them. -/
theorem eq_of_ascending {tables : List Table} {table table' : Table}
    (h : (tables.map Table.name).Pairwise (· < ·)) (htable : table ∈ tables)
    (htable' : table' ∈ tables) (hname : table.name = table'.name) : table = table' := by
  induction tables with
  | nil => exact absurd htable List.not_mem_nil
  | cons first others ih =>
    obtain ⟨hfirst, hothers⟩ := List.pairwise_cons.1 h
    have hlt (other : Table) (hother : other ∈ others) : first.name < other.name :=
      hfirst _ (List.mem_map_of_mem hother)
    rcases List.mem_cons.1 htable with heq | hmem <;>
      rcases List.mem_cons.1 htable' with heq' | hmem'
    · exact heq.trans heq'.symm
    · exact absurd (hname ▸ heq ▸ hlt table' hmem') (String.lt_irrefl _)
    · exact absurd (hname ▸ heq' ▸ hlt table hmem) (String.lt_irrefl _)
    · exact ih hothers hmem hmem'

/-! ## Schemas -/

/-- The statements that list the tables, in the order in which they are tried. -/
def listingStatements : List String :=
  ["SELECT table_name FROM information_schema.tables WHERE table_type = 'BASE TABLE' AND " ++
      "table_schema = current_schema() ORDER BY table_name",
    "SHOW TABLES"]

/-- What a schema read after a listing of these names holds, by the lookups for its tables. -/
structure IsComplete (names : List String) (lookups : List Exchange) (schema : Schema) : Prop where
  ascending : (schema.tables.map Table.name).Pairwise (· < ·)
  mem_iff (name : String) : name ∈ schema.tables.map Table.name ↔ name ∈ names ∧
    ∀ opening ∈ ["sqlite_", "duck_", "pg_"], ¬opening.toList <+: Text.lower name.toList
  typedAsDeclared : ∀ table ∈ schema.tables, ∀ column ∈ table.columns,
    column.semanticType = .ofDeclared column.declaredType
  /-- The indexes of every table were asked for. -/
  asked : ∀ table ∈ schema.tables,
    ∃ reply, Exchange.fetched (indexQuery table.name) reply ∈ lookups
  indexes : ∀ table ∈ schema.tables, ∀ reply,
    Exchange.fetched (indexQuery table.name) reply ∈ lookups → IndexesRead reply table.indexes

theorem TablesRead.isComplete {names : List String} {lookups : List Exchange}
    {tables : List Table} (h : TablesRead lookups tables)
    (hnames : tables.map Table.name = workNames names) : IsComplete names lookups ⟨tables⟩ where
  ascending := hnames ▸ workNames_ascending names
  mem_iff name := by rw [hnames, mem_workNames, isSystemTable_eq_false, systemOpenings]
  typedAsDeclared := h.typedAsDeclared
  asked := h.asked
  indexes table htable reply hreply := by
    obtain ⟨table', htable', hname, hindexed⟩ := h.of_fetched hreply
    have hascending : (tables.map Table.name).Pairwise (· < ·) :=
      hnames ▸ workNames_ascending names
    rwa [eq_of_ascending hascending htable htable' hname.symm]

theorem Unlisted.map_sql {sqls : List String} {exchanges : List Exchange}
    (h : Unlisted sqls exchanges) : exchanges.map Exchange.sql = sqls := by
  induction h with
  | nil => rfl
  | cons _ ih => rw [List.map_cons, ih, Exchange.sql]

/-- **No table is lost.** Whatever the executor answers: if a listing is answered, the schema is
read and complete by the names in the answered rows. If none is, the database counts as out of
reach, and nothing but the two listings was sent. -/
theorem readSchema_complete (x : Executor σ) (link : Link σ) :
    ∃ exchanges, Exchanged x link exchanges (readSchema x link).2 ∧
      ((∃ listing lookups names schema, exchanges = listing ++ lookups ∧
          Listed listingStatements listing names ∧ (readSchema x link).1 = .ok schema ∧
          IsComplete names lookups schema) ∨
        (Unlisted listingStatements exchanges ∧
          (∃ reason, (readSchema x link).1 = .error (.connectivity reason)) ∧
          (readSchema x link).2.transcript.toList =
            link.transcript.toList ++ listingStatements.map (Sent.mk .introspection))) := by
  obtain ⟨exchanges, hexchanged, hread⟩ := readSchema_follows x link
  have hlistings : listings.map Prod.snd = listingStatements := rfl
  refine ⟨exchanges, hexchanged, ?_⟩
  generalize hresult : (readSchema x link).1 = result at hread
  cases hread with
  | read listed named tablesRead =>
    exact .inl ⟨_, _, _, _, rfl, hlistings ▸ listed, rfl, tablesRead.isComplete named⟩
  | unlisted h =>
    refine .inr ⟨hlistings ▸ h, ⟨_, rfl⟩, ?_⟩
    have hsqls := congrArg (List.map (Sent.mk .introspection)) h.map_sql
    rw [List.map_map] at hsqls
    exact hexchanged.transcript_eq.trans (congrArg _ (hlistings ▸ hsqls))

/-- An engine that answers with the rows for its state, and goes on to another state. -/
def reciting (rows : σ → String → Except EngineError (List Row)) (next : σ → σ) : Executor σ where
  execute sql := pure ⟨.error (.statement sql "read only"), []⟩
  fetch sql := fun engine => (⟨rows engine sql, []⟩, next engine)
  columnNames sql := pure ⟨.error (.statement sql "no such table"), []⟩
  isAlive := pure true

/-- The rows of an engine that lists tables in the second way only: one of them twice, one that is
its own, one whose name is no text, and rows that name none. It knows the indexes of one table. -/
def depot (sql : String) : Except EngineError (List Row) :=
  if sql = "SHOW TABLES" then
    .ok [[.text "parts"], [.null], [.text "Duck_log"], [.text "orders"], [.text "parts"],
      [.boolean true], []]
  else if sql = indexQuery "orders" then .ok [[.text "by_note"], [.null], [.text "by_id"]]
  else .error (.statement sql "no such table")

/-- An exchange with an engine that is always in one state holds the rows of that state. -/
theorem reply_eq_of_exchanged {rows : Unit → String → Except EngineError (List Row)}
    {link link' : Link Unit} {exchanges : List Exchange}
    (h : Exchanged (reciting rows id) link exchanges link') {sql : String}
    {reply : Except EngineError (List Row)} (hmem : Exchange.fetched sql reply ∈ exchanges) :
    reply = rows () sql := by
  obtain ⟨engine, hanswer⟩ := h.isAnswerOf _ hmem
  exact hanswer.symm

theorem Listed.names_depot {listing : List Exchange} {names : List String}
    (h : Listed listingStatements listing names)
    (hreply : ∀ sql reply, Exchange.fetched sql reply ∈ listing → reply = depot sql) :
    names = ["parts", "Duck_log", "orders", "parts", "true"] := by
  obtain ⟨sql, hsql, rows, hrows, named⟩ := h.exists_rows
  have hanswer := hreply sql _ hrows
  simp only [listingStatements, List.mem_cons, List.not_mem_nil, or_false] at hsql
  rcases hsql with rfl | rfl
  · cases hanswer
  · cases hanswer
    exact named.eq_firstTexts

/-- All tables of the depot but the engine's own. -/
theorem mem_depot_iff (name : String) :
    (name ∈ ["parts", "Duck_log", "orders", "parts", "true"] ∧
        ∀ opening ∈ ["sqlite_", "duck_", "pg_"],
          ¬opening.toList <+: Text.lower name.toList) ↔
      name ∈ ["orders", "parts", "true"] := by
  constructor
  · rintro ⟨hname, hother⟩
    simp only [List.mem_cons, List.not_mem_nil, or_false] at hname
    rcases hname with rfl | rfl | rfl | rfl | rfl
    · decide
    · exact absurd (by decide +kernel) (hother "duck_" (by decide))
    · decide
    · decide
    · decide
  · intro hname
    simp only [List.mem_cons, List.not_mem_nil, or_false] at hname
    rcases hname with rfl | rfl | rfl <;> decide +kernel

theorem IndexesRead.indexes_depot {name : String} {indexes : List String}
    (h : IndexesRead (depot (indexQuery name)) indexes)
    (hname : name ∈ ["orders", "parts", "true"]) :
    indexes = if name = "orders" then ["by_note", "by_id"] else [] := by
  generalize hreply : depot (indexQuery name) = reply at h
  simp only [List.mem_cons, List.not_mem_nil, or_false] at hname
  rcases hname with rfl | rfl | rfl <;> cases hreply
  · cases h with
    | answered named => exact named.eq_firstTexts
  · cases h with
    | rejected => rfl
  · cases h with
    | rejected => rfl

/-- The depot has three tables to work on, each once and in order, and the indexes of one of them
are known. Of an engine that is gone nothing is read, and nothing but the listings is asked. -/
theorem readSchema_complete_depot :
    let manned : Executor Unit := reciting (fun _ => depot) id
    let gone : Executor Unit := reciting (fun _ _ => .error (.connection "gone")) id
    let link : Link Unit := ⟨(), {}, #[]⟩
    (∃ schema, (readSchema manned link).1 = .ok schema ∧
      schema.tables.map Table.name = ["orders", "parts", "true"] ∧
      ∀ table ∈ schema.tables,
        table.indexes = if table.name = "orders" then ["by_note", "by_id"] else []) ∧
    (∃ reason, (readSchema gone link).1 = .error (.connectivity reason)) ∧
      (readSchema gone link).2.transcript.toList =
        listingStatements.map (Sent.mk .introspection) := by
  intro manned gone link
  constructor
  · obtain ⟨exchanges, hexchanged, hcourse⟩ := readSchema_complete manned link
    have hreply (sql : String) (reply : Except EngineError (List Row))
        (hmem : Exchange.fetched sql reply ∈ exchanges) : reply = depot sql :=
      reply_eq_of_exchanged hexchanged hmem
    rcases hcourse with ⟨listing, lookups, names, schema, rfl, hlisted, hread, hcomplete⟩ | hlost
    · have hlisting := hlisted.names_depot fun sql reply hmem =>
        hreply sql reply (List.mem_append_left _ hmem)
      have hnames : schema.tables.map Table.name = ["orders", "parts", "true"] := by
        refine hcomplete.ascending.eq_of_mem_iff (by decide +kernel) fun name => ?_
        rw [hcomplete.mem_iff, hlisting, mem_depot_iff]
      refine ⟨schema, hread, hnames, fun table htable => ?_⟩
      obtain ⟨reply, hasked⟩ := hcomplete.asked table htable
      have hindexed := hcomplete.indexes table htable reply hasked
      rw [hreply _ _ (List.mem_append_right _ hasked)] at hindexed
      exact hindexed.indexes_depot (hnames ▸ List.mem_map_of_mem htable)
    · -- The second listing is answered.
      obtain ⟨hunlisted, -⟩ := hlost
      cases hunlisted with
      | cons rest =>
        cases rest with
        | cons _ => cases hreply _ _ (List.mem_cons_of_mem _ List.mem_cons_self)
  · obtain ⟨exchanges, hexchanged, hcourse⟩ := readSchema_complete gone link
    rcases hcourse with ⟨listing, lookups, names, schema, rfl, hlisted, -⟩ | ⟨-, hlost, hsent⟩
    · obtain ⟨sql, -, rows, hrows, -⟩ := hlisted.exists_rows
      cases reply_eq_of_exchanged hexchanged (List.mem_append_left _ hrows)
    · exact ⟨hlost, hsent⟩

end Introspection

end RowParity
