import Mathlib.Data.List.Forall2
import RowParity.Proofs.Catalog.Completeness
import RowParity.Proofs.Sql.Embedding

/-!
# The order of answers does not matter

An engine may list the tables in any order and name some of them twice, and it may give the rows
about a table in any order. The schema that is read then differs in the order of columns and indexes
only (`readSchema_sameUpToOrder`), so its shape is the same: for two engines that hold the same, and
for one engine whose database is read again (`readSchema_unordered`).
-/

namespace RowParity

variable {σ σ' : Type}

/-! ## Schemas up to order -/

/-- The tables have the same columns and the same indexes. -/
structure Table.SameUpToOrder (table table' : Table) : Prop where
  name_eq : table.name = table'.name
  columns : table.columns.Perm table'.columns
  indexes : table.indexes.Perm table'.indexes

/-- The schemas have the same tables in the same order. -/
def Schema.SameUpToOrder (schema schema' : Schema) : Prop :=
  List.Forall₂ Table.SameUpToOrder schema.tables schema'.tables

namespace Schema

/-- A linear order sorts lists into one order exactly if they have the same members, each as
often. -/
theorem mergeSort_eq_iff_perm {α : Type} {le : α → α → Bool}
    (htrans : ∀ a b c, le a b = true → le b c = true → le a c = true)
    (htotal : ∀ a b, (le a b || le b a) = true)
    (hantisymm : ∀ a b, le a b = true → le b a = true → a = b) {xs ys : List α} :
    xs.mergeSort le = ys.mergeSort le ↔ xs.Perm ys := by
  have hsorted (xs : List α) := List.pairwise_mergeSort htrans htotal xs
  constructor
  · intro h
    exact (List.mergeSort_perm xs le).symm.trans (h ▸ List.mergeSort_perm ys le)
  · intro h
    have hperm : (xs.mergeSort le).Perm (ys.mergeSort le) :=
      (List.mergeSort_perm xs le).trans (h.trans (List.mergeSort_perm ys le).symm)
    exact hperm.eq_of_pairwise (fun a b _ _ => hantisymm a b) (hsorted xs) (hsorted ys)

/-- Names are sorted into one order, however they came. -/
theorem mergeSort_nameLE_eq_iff {names names' : List String} :
    names.mergeSort nameLE = names'.mergeSort nameLE ↔ names.Perm names' :=
  mergeSort_eq_iff_perm Introspection.nameLE_trans Introspection.nameLE_total fun _ _ hab hba =>
    String.le_antisymm (of_decide_eq_true hab) (of_decide_eq_true hba)

theorem entry_eq {table table' : Table} (h : table.SameUpToOrder table') :
    entry table = entry table' := by
  have hnames : table.columnNames.Perm table'.columnNames := h.columns.map Column.name
  rw [entry, entry, h.name_eq, mergeSort_nameLE_eq_iff.2 hnames]

theorem map_entry_eq {tables tables' : List Table}
    (h : List.Forall₂ Table.SameUpToOrder tables tables') :
    tables.map entry = tables'.map entry := by
  induction h with
  | nil => rfl
  | cons hfirst _ ih => rw [List.map_cons, List.map_cons, entry_eq hfirst, ih]

theorem SameUpToOrder.shape_eq {schema schema' : Schema} (h : schema.SameUpToOrder schema') :
    schema.shape = schema'.shape := by
  rw [shape, shape, map_entry_eq h]

end Schema

namespace Introspection

/-! ## Answers up to order -/

/-- What an engine answers to each statement; nothing if it rejects it. -/
structure Answers where
  fetch : String → Option (List Row)
  columnNames : String → Option (List String)

/-- What the executor would answer from this state. -/
def answersFrom (x : Executor σ) (engine : σ) : Answers where
  fetch sql := (x.fetch sql engine).1.result.toOption
  columnNames sql := (x.columnNames sql engine).1.result.toOption

/-- The statements that ask for rows about a table. -/
def rowQueries (table : String) : List String :=
  [catalogQuery table, pragmaQuery table, indexQuery table]

def SameNames (names names' : List String) : Prop :=
  ∀ name, name ∈ names ↔ name ∈ names'

/-- The same statements of the introspection are rejected. The listings name the same tables, in any
order and with any repetitions, and what is said of a table is the same up to order. -/
structure Answers.SameUpToOrder (a a' : Answers) : Prop where
  listing : ∀ sql ∈ listings.map Prod.snd,
    Option.Rel (fun rows rows' => SameNames (firstTexts rows) (firstTexts rows'))
      (a.fetch sql) (a'.fetch sql)
  rows : ∀ table, ∀ sql ∈ rowQueries table, Option.Rel List.Perm (a.fetch sql) (a'.fetch sql)
  names : ∀ table, Option.Rel List.Perm (a.columnNames (emptyQuery table))
    (a'.columnNames (emptyQuery table))

theorem rel_symm {α : Type} {r : α → α → Prop} (h : ∀ a a', r a a' → r a' a) {o o' : Option α}
    (hrel : Option.Rel r o o') : Option.Rel r o' o := by
  cases hrel with
  | none => exact .none
  | some hr => exact .some (h _ _ hr)

theorem Answers.SameUpToOrder.symm {a a' : Answers} (h : a.SameUpToOrder a') :
    a'.SameUpToOrder a where
  listing sql hsql := rel_symm (fun _ _ hsame name => (hsame name).symm) (h.listing sql hsql)
  rows table sql hsql := rel_symm (fun _ _ hperm => hperm.symm) (h.rows table sql hsql)
  names table := rel_symm (fun _ _ hperm => hperm.symm) (h.names table)

/-- The executor answers the introspection without leaving these states. -/
structure Stays (x : Executor σ) (states : σ → Prop) : Prop where
  fetch : ∀ sql engine, IsQuestion sql → states engine → states (x.fetch sql engine).2
  columnNames : ∀ sql engine, IsQuestion sql → states engine → states (x.columnNames sql engine).2

/-- The exchange holds an answer of the executor from one of these states. -/
def Holds (x : Executor σ) (states : σ → Prop) (exchange : Exchange) : Prop :=
  ∃ engine, states engine ∧ exchange.IsAnswerOf x engine

/-- All answers are given from these states if the first one is. -/
theorem Stays.holds {x : Executor σ} {states : σ → Prop} (hstays : Stays x states)
    {link link' : Link σ} {exchanges : List Exchange} (h : Exchanged x link exchanges link')
    (hasked : ∀ exchange ∈ exchanges, IsQuestion exchange.sql) (hlink : states link.engine) :
    (∀ exchange ∈ exchanges, Holds x states exchange) ∧ states link'.engine := by
  induction h with
  | done => exact ⟨List.forall_mem_nil _, hlink⟩
  | noted _ _ ih => exact ih hasked hlink
  | fetched asked _ ih =>
    obtain ⟨hfirst, hothers⟩ := List.forall_mem_cons.1 hasked
    have hnext := hstays.fetch _ _ hfirst hlink
    obtain ⟨hholds, hlast⟩ := ih hothers (Link.ask_engine asked ▸ hnext)
    exact ⟨List.forall_mem_cons.2 ⟨⟨_, hlink, congrArg Prod.fst asked⟩, hholds⟩, hlast⟩
  | named asked _ ih =>
    obtain ⟨hfirst, hothers⟩ := List.forall_mem_cons.1 hasked
    have hnext := hstays.columnNames _ _ hfirst hlink
    obtain ⟨hholds, hlast⟩ := ih hothers (Link.ask_engine asked ▸ hnext)
    exact ⟨List.forall_mem_cons.2 ⟨⟨_, hlink, congrArg Prod.fst asked⟩, hholds⟩, hlast⟩

/-! ## Two readings -/

/-- Names are listed in one order and each once, however they came. -/
theorem workNames_eq {names names' : List String} (h : SameNames names names') :
    workNames names = workNames names' := by
  have hmem (name : String) : name ∈ workNames names ↔ name ∈ workNames names' := by
    rw [mem_workNames, mem_workNames, h name]
  have hnodup (names : List String) : (workNames names).Nodup := by
    refine (workNames_ascending names).imp fun hlt => ?_
    rintro rfl
    exact String.lt_irrefl _ hlt
  have hperm := (List.perm_ext_iff_of_nodup (hnodup names) (hnodup names')).2 hmem
  refine hperm.eq_of_pairwise (fun a b _ _ hab hba => ?_) (workNames_ascending names)
    (workNames_ascending names')
  exact absurd (String.lt_trans hab hba) (String.lt_irrefl a)

/-- Related replies are both rejections, or both answers and related. -/
theorem rejected_or_answered {ε α : Type} {r : α → α → Prop} {reply reply' : Except ε α}
    (h : Option.Rel r reply.toOption reply'.toOption) :
    (∃ e e', reply = .error e ∧ reply' = .error e') ∨
      ∃ a a', reply = .ok a ∧ reply' = .ok a' ∧ r a a' := by
  cases reply with
  | error e =>
    cases reply' with
    | error e' => exact .inl ⟨e, e', rfl, rfl⟩
    | ok a' => cases h
  | ok a =>
    cases reply' with
    | error e' => cases h
    | ok a' =>
      cases h with
      | some hr => exact .inr ⟨a, a', rfl, rfl, hr⟩

theorem map_perm {α β : Type} {f : List α → List β}
    (hf : ∀ as as', as.Perm as' → (f as).Perm (f as')) {reply reply' : Except EngineError (List α)}
    (h : Option.Rel List.Perm reply.toOption reply'.toOption) :
    Option.Rel List.Perm (reply.map f).toOption (reply'.map f).toOption := by
  rcases rejected_or_answered h with ⟨e, e', rfl, rfl⟩ | ⟨as, as', rfl, rfl, hperm⟩
  · exact .none
  · exact .some (hf as as' hperm)

theorem NoColumns.of_perm {answer answer' : Except EngineError (List Column)}
    (h : NoColumns answer') (hrel : Option.Rel List.Perm answer.toOption answer'.toOption) :
    NoColumns answer := by
  rcases rejected_or_answered hrel with ⟨e, e', rfl, rfl⟩ | ⟨columns, columns', rfl, rfl, hperm⟩
  · trivial
  · have hnil : columns' = [] := h
    rw [hnil] at hperm
    exact hperm.eq_nil

theorem IndexesRead.perm {reply reply' : Except EngineError (List Row)}
    {indexes indexes' : List String} (h : IndexesRead reply indexes)
    (h' : IndexesRead reply' indexes')
    (hrel : Option.Rel List.Perm reply.toOption reply'.toOption) : indexes.Perm indexes' := by
  cases h with
  | answered named =>
    cases h' with
    | answered named' =>
      cases hrel with
      | some hperm =>
        rw [named.eq_firstTexts, named'.eq_firstTexts]
        exact hperm.filterMap _
    | rejected => cases hrel
  | rejected =>
    cases h' with
    | answered _ => cases hrel
    | rejected => exact .refl []

section readings

variable {x : Executor σ} {x' : Executor σ'} {states : σ → Prop} {states' : σ' → Prop}

/-- Each executor in any of its states, the two answer the same up to order. -/
def AnswerAlike (x : Executor σ) (states : σ → Prop) (x' : Executor σ') (states' : σ' → Prop) :
    Prop :=
  ∀ engine engine', states engine → states' engine' →
    (answersFrom x engine).SameUpToOrder (answersFrom x' engine')

theorem AnswerAlike.symm (h : AnswerAlike x states x' states') : AnswerAlike x' states' x states :=
  fun engine' engine hengine' hengine => (h engine engine' hengine hengine').symm

variable (halike : AnswerAlike x states x' states')

include halike

theorem listing_alike {sql : String} (hsql : sql ∈ listings.map Prod.snd)
    {reply reply' : Except EngineError (List Row)} (h : Holds x states (.fetched sql reply))
    (h' : Holds x' states' (.fetched sql reply')) :
    Option.Rel (fun rows rows' => SameNames (firstTexts rows) (firstTexts rows'))
      reply.toOption reply'.toOption := by
  obtain ⟨engine, hengine, rfl⟩ := h
  obtain ⟨engine', hengine', rfl⟩ := h'
  exact (halike engine engine' hengine hengine').listing sql hsql

theorem rows_alike {table sql : String} (hsql : sql ∈ rowQueries table)
    {reply reply' : Except EngineError (List Row)} (h : Holds x states (.fetched sql reply))
    (h' : Holds x' states' (.fetched sql reply')) :
    Option.Rel List.Perm reply.toOption reply'.toOption := by
  obtain ⟨engine, hengine, rfl⟩ := h
  obtain ⟨engine', hengine', rfl⟩ := h'
  exact (halike engine engine' hengine hengine').rows table sql hsql

theorem names_alike {table : String} {reply reply' : Except EngineError (List String)}
    (h : Holds x states (.named (emptyQuery table) reply))
    (h' : Holds x' states' (.named (emptyQuery table) reply')) :
    Option.Rel List.Perm reply.toOption reply'.toOption := by
  obtain ⟨engine, hengine, rfl⟩ := h
  obtain ⟨engine', hengine', rfl⟩ := h'
  exact (halike engine engine' hengine hengine').names table

/-- A source tells of the same columns. -/
theorem ColumnSource.Tells.alike {table : String} {source : ColumnSource}
    {exchange exchange' : Exchange} {answer answer' : Except EngineError (List Column)}
    (h : source.Tells table exchange answer) (h' : source.Tells table exchange' answer')
    (hholds : Holds x states exchange) (hholds' : Holds x' states' exchange') :
    Option.Rel List.Perm answer.toOption answer'.toOption := by
  cases h with
  | catalog =>
    cases h'
    have hquery : catalogQuery table ∈ rowQueries table := by simp [rowQueries]
    exact map_perm (fun _ _ hperm => hperm.filterMap _) (rows_alike halike hquery hholds hholds')
  | pragma =>
    cases h'
    have hquery : pragmaQuery table ∈ rowQueries table := by simp [rowQueries]
    exact map_perm (fun _ _ hperm => hperm.filterMap _) (rows_alike halike hquery hholds hholds')
  | resultNames =>
    cases h'
    exact map_perm (fun _ _ hperm => hperm.map _) (names_alike halike hholds hholds')

/-- The same source is the first to tell of columns, and it tells of the same ones. -/
theorem Looked.alike {table : String} {sources : List ColumnSource}
    {exchanges exchanges' : List Exchange} {columns columns' : List Column}
    (h : Looked table sources exchanges columns) (h' : Looked table sources exchanges' columns')
    (hholds : ∀ exchange ∈ exchanges, Holds x states exchange)
    (hholds' : ∀ exchange ∈ exchanges', Holds x' states' exchange) :
    columns.Perm columns' := by
  induction h generalizing exchanges' with
  | exhausted =>
    cases h'
    exact .refl []
  | found told hne =>
    obtain ⟨hfirst, -⟩ := List.forall_mem_cons.1 hholds
    cases h' with
    | found told' _ =>
      obtain ⟨hfirst', -⟩ := List.forall_mem_cons.1 hholds'
      cases told.alike halike told' hfirst hfirst' with
      | some hperm => exact hperm
    | vain told' hvain rest =>
      obtain ⟨hfirst', -⟩ := List.forall_mem_cons.1 hholds'
      -- What was in vain for the one engine would have been in vain for the other.
      have hnone := hvain.of_perm (told.alike halike told' hfirst hfirst')
      exact absurd hnone hne
  | vain told hvain rest ih =>
    obtain ⟨hfirst, hothers⟩ := List.forall_mem_cons.1 hholds
    cases h' with
    | found told' hne' =>
      obtain ⟨hfirst', -⟩ := List.forall_mem_cons.1 hholds'
      have hnone := hvain.of_perm (told'.alike halike.symm told hfirst' hfirst)
      exact absurd hnone hne'
    | vain told' _ rest' =>
      obtain ⟨-, hothers'⟩ := List.forall_mem_cons.1 hholds'
      exact ih rest' hothers hothers'

theorem TableRead.alike {exchanges exchanges' : List Exchange} {table table' : Table}
    (h : TableRead exchanges table) (h' : TableRead exchanges' table')
    (hname : table.name = table'.name)
    (hholds : ∀ exchange ∈ exchanges, Holds x states exchange)
    (hholds' : ∀ exchange ∈ exchanges', Holds x' states' exchange) :
    table.SameUpToOrder table' := by
  cases h with
  | @intro name _ _ _ reply looked indexed =>
    cases h' with
    | @intro name' _ _ _ reply' looked' indexed' =>
      have hsame : name = name' := hname
      subst hsame
      obtain ⟨hlookup, hindexes⟩ := List.forall_mem_append.1 hholds
      obtain ⟨hlookup', hindexes'⟩ := List.forall_mem_append.1 hholds'
      have hquery : indexQuery name ∈ rowQueries name := by simp [rowQueries]
      have hrows := rows_alike halike hquery (List.forall_mem_singleton.1 hindexes)
        (List.forall_mem_singleton.1 hindexes')
      exact ⟨rfl, looked.alike halike looked' hlookup hlookup', indexed.perm indexed' hrows⟩

theorem TablesRead.alike {exchanges exchanges' : List Exchange} {tables tables' : List Table}
    (h : TablesRead exchanges tables) (h' : TablesRead exchanges' tables')
    (hnames : tables.map Table.name = tables'.map Table.name)
    (hholds : ∀ exchange ∈ exchanges, Holds x states exchange)
    (hholds' : ∀ exchange ∈ exchanges', Holds x' states' exchange) :
    List.Forall₂ Table.SameUpToOrder tables tables' := by
  induction h generalizing exchanges' tables' with
  | nil =>
    cases h' with
    | nil => exact .nil
    | cons _ _ => cases hnames
  | cons read _ ih =>
    cases h' with
    | nil => cases hnames
    | cons read' rest' =>
      obtain ⟨hname, hothers⟩ := List.cons.inj hnames
      obtain ⟨hfirst, hlater⟩ := List.forall_mem_append.1 hholds
      obtain ⟨hfirst', hlater'⟩ := List.forall_mem_append.1 hholds'
      exact .cons (read.alike halike read' hname hfirst hfirst') (ih rest' hothers hlater hlater')

/-- The same listing is the first to be answered, and it names the same tables. -/
theorem Listed.alike {sqls : List String} {exchanges exchanges' : List Exchange}
    {names names' : List String} (h : Listed sqls exchanges names)
    (h' : Listed sqls exchanges' names') (hsqls : sqls ⊆ listings.map Prod.snd)
    (hholds : ∀ exchange ∈ exchanges, Holds x states exchange)
    (hholds' : ∀ exchange ∈ exchanges', Holds x' states' exchange) : SameNames names names' := by
  induction h generalizing exchanges' with
  | answered named =>
    have hfirst := hholds _ List.mem_cons_self
    cases h' with
    | answered named' =>
      have hfirst' := hholds' _ List.mem_cons_self
      cases listing_alike halike (hsqls List.mem_cons_self) hfirst hfirst' with
      | some hsame =>
        rw [named.eq_firstTexts, named'.eq_firstTexts]
        exact hsame
    | rejected rest' =>
      have hfirst' := hholds' _ List.mem_cons_self
      cases listing_alike halike (hsqls List.mem_cons_self) hfirst hfirst'
  | rejected rest ih =>
    obtain ⟨hfirst, hothers⟩ := List.forall_mem_cons.1 hholds
    cases h' with
    | answered =>
      have hfirst' := hholds' _ List.mem_cons_self
      cases listing_alike halike (hsqls List.mem_cons_self) hfirst hfirst'
    | rejected rest' =>
      obtain ⟨-, hothers'⟩ := List.forall_mem_cons.1 hholds'
      exact ih rest' (List.cons_subset.1 hsqls).2 hothers hothers'

theorem Listed.not_unlisted {sqls : List String} {exchanges exchanges' : List Exchange}
    {names : List String} (h : Listed sqls exchanges names) (h' : Unlisted sqls exchanges')
    (hsqls : sqls ⊆ listings.map Prod.snd)
    (hholds : ∀ exchange ∈ exchanges, Holds x states exchange)
    (hholds' : ∀ exchange ∈ exchanges', Holds x' states' exchange) : False := by
  induction h generalizing exchanges' with
  | answered =>
    cases h' with
    | cons _ =>
      have hfirst := hholds _ List.mem_cons_self
      have hfirst' := hholds' _ List.mem_cons_self
      cases listing_alike halike (hsqls List.mem_cons_self) hfirst hfirst'
  | rejected _ ih =>
    cases h' with
    | cons rest' =>
      obtain ⟨-, hothers⟩ := List.forall_mem_cons.1 hholds
      obtain ⟨-, hothers'⟩ := List.forall_mem_cons.1 hholds'
      exact ih rest' (List.cons_subset.1 hsqls).2 hothers hothers'

theorem SchemaRead.alike {exchanges exchanges' : List Exchange}
    {result result' : Except RunError Schema} (h : SchemaRead exchanges result)
    (h' : SchemaRead exchanges' result')
    (hholds : ∀ exchange ∈ exchanges, Holds x states exchange)
    (hholds' : ∀ exchange ∈ exchanges', Holds x' states' exchange) :
    Option.Rel Schema.SameUpToOrder result.toOption result'.toOption := by
  have hsqls : listings.map Prod.snd ⊆ listings.map Prod.snd := List.Subset.refl _
  cases h with
  | read listed named tablesRead =>
    obtain ⟨hlisting, hlookups⟩ := List.forall_mem_append.1 hholds
    cases h' with
    | read listed' named' tablesRead' =>
      obtain ⟨hlisting', hlookups'⟩ := List.forall_mem_append.1 hholds'
      have hsame := listed.alike halike listed' hsqls hlisting hlisting'
      rw [workNames_eq hsame, ← named'] at named
      exact .some (tablesRead.alike halike tablesRead' named hlookups hlookups')
    | unlisted unlisted' =>
      exact (listed.not_unlisted halike unlisted' hsqls hlisting hholds').elim
  | unlisted unlisted =>
    cases h' with
    | read listed' _ _ =>
      obtain ⟨hlisting', -⟩ := List.forall_mem_append.1 hholds'
      exact (listed'.not_unlisted halike.symm unlisted hsqls hlisting' hholds).elim
    | unlisted _ => exact .none

/-- Executors that answer alike give the same schema up to order, or none of them gives one. -/
theorem readSchema_sameUpToOrder (hstays : Stays x states) (hstays' : Stays x' states')
    {link : Link σ} {link' : Link σ'} (hlink : states link.engine) (hlink' : states' link'.engine) :
    Option.Rel Schema.SameUpToOrder (readSchema x link).1.toOption
      (readSchema x' link').1.toOption := by
  obtain ⟨exchanges, hexchanged, hread⟩ := readSchema_follows x link
  obtain ⟨exchanges', hexchanged', hread'⟩ := readSchema_follows x' link'
  obtain ⟨hholds, -⟩ := hstays.holds hexchanged hread.isQuestion hlink
  obtain ⟨hholds', -⟩ := hstays'.holds hexchanged' hread'.isQuestion hlink'
  exact hread.alike halike hread' hholds hholds'

end readings

/-! ## Shapes -/

/-- Either both readings fail, or both give a schema, of the same shape. -/
structure SameShape (result result' : Except RunError Schema) : Prop where
  read_iff : (∃ schema, result = .ok schema) ↔ ∃ schema', result' = .ok schema'
  shape_eq : ∀ schema schema', result = .ok schema → result' = .ok schema' →
    schema.shape = schema'.shape

theorem SameShape.of_rel {result result' : Except RunError Schema}
    (h : Option.Rel Schema.SameUpToOrder result.toOption result'.toOption) :
    SameShape result result' := by
  rcases rejected_or_answered h with ⟨e, e', rfl, rfl⟩ | ⟨schema, schema', rfl, rfl, hsame⟩
  · constructor
    · constructor
      · rintro ⟨_, hread⟩
        cases hread
      · rintro ⟨_, hread⟩
        cases hread
    · intro _ _ hread
      cases hread
  · refine ⟨⟨fun _ => ⟨schema', rfl⟩, fun _ => ⟨schema, rfl⟩⟩, fun _ _ hread hread' => ?_⟩
    cases hread
    cases hread'
    exact hsame.shape_eq

/-! ## Engines -/

/-- **The order of answers does not matter.** Let the answers of two engines depend on the
statements alone and be the same up to order: then either both schemas are read or none, and they
have the same shape. So do all readings of one database that stays as it is, even if its engine
gives its answers in another order each time. -/
theorem readSchema_unordered :
    (∀ (σ σ' : Type) (x : Executor σ) (x' : Executor σ') (a a' : Answers),
      (∀ engine, answersFrom x engine = a) → (∀ engine, answersFrom x' engine = a') →
        a.SameUpToOrder a' →
          ∀ link link', SameShape (readSchema x link).1 (readSchema x' link').1) ∧
      ∀ (σ : Type) (x : Executor σ) (states : σ → Prop), Stays x states →
        AnswerAlike x states x states → ∀ link link' : Link σ, states link.engine →
          states link'.engine →
            states (readSchema x link).2.engine ∧
              SameShape (readSchema x link).1 (readSchema x link').1 := by
  constructor
  · intro σ σ' x x' a a' hanswers hanswers' hsame link link'
    have hstays {τ : Type} (x : Executor τ) : Stays x fun _ => True :=
      ⟨fun _ _ _ _ => trivial, fun _ _ _ _ => trivial⟩
    have halike : AnswerAlike x (fun _ => True) x' fun _ => True := by
      intro engine engine' _ _
      rw [hanswers, hanswers']
      exact hsame
    exact .of_rel (readSchema_sameUpToOrder halike (hstays x) (hstays x') trivial trivial)
  · intro σ x states hstays halike link link' hlink hlink'
    refine ⟨?_, .of_rel (readSchema_sameUpToOrder halike hstays hstays hlink hlink')⟩
    obtain ⟨exchanges, hexchanged, hread⟩ := readSchema_follows x link
    exact (hstays.holds hexchanged hread.isQuestion hlink).2

/-- The rows of two tables, turned round or not. Turned round, a table is listed twice. -/
def warehouse (turned : Bool) (sql : String) : Except EngineError (List Row) :=
  let columns : List Row := [[.text "id", .text "INTEGER"], [.text "note", .text "VARCHAR"]]
  if sql = "SHOW TABLES" then
    .ok (if turned then [[.text "parts"], [.text "orders"], [.text "parts"]]
      else [[.text "orders"], [.text "parts"]])
  else if sql = catalogQuery "orders" then .ok (if turned then columns.reverse else columns)
  else .error (.statement sql "no such table")

theorem rowQueries_ne_showTables {table sql : String} (h : sql ∈ rowQueries table) :
    sql ≠ "SHOW TABLES" := by
  have hother : "SHOW TABLES".toList <+: "SHOW TABLES".toList := List.prefix_rfl
  simp only [rowQueries, List.mem_cons, List.not_mem_nil, or_false] at h
  rcases h with rfl | rfl | rfl
  · exact ne_of_opening (catalogQuery_opening table) hother (by decide) (by decide)
  · exact ne_of_opening (pragmaQuery_opening table) hother (by decide) (by decide)
  · exact ne_of_opening (indexQuery_opening table) hother (by decide) (by decide)

theorem warehouse_sameUpToOrder (turned turned' : Bool) :
    Answers.SameUpToOrder ⟨fun sql => (warehouse turned sql).toOption, fun _ => none⟩
      ⟨fun sql => (warehouse turned' sql).toOption, fun _ => none⟩ where
  listing sql hsql := by
    simp only [listings, List.map_cons, List.map_nil, List.mem_cons, List.not_mem_nil,
      or_false] at hsql
    rcases hsql with rfl | rfl
    · exact .none
    · have hturned : SameNames ["parts", "orders", "parts"] ["orders", "parts"] := by
        intro name
        simp only [List.mem_cons, List.not_mem_nil, or_false]
        tauto
      refine .some ?_
      cases turned <;> cases turned'
      · exact fun _ => .rfl
      · exact fun name => (hturned name).symm
      · exact hturned
      · exact fun _ => .rfl
  rows table sql hsql := by
    have hshow := rowQueries_ne_showTables hsql
    simp only [warehouse, if_neg hshow]
    by_cases hcolumns : sql = catalogQuery "orders"
    · rw [if_pos hcolumns, if_pos hcolumns]
      refine .some ?_
      cases turned <;> cases turned'
      · exact .refl _
      · exact (List.reverse_perm _).symm
      · exact List.reverse_perm _
      · exact .refl _
    · rw [if_neg hcolumns, if_neg hcolumns]
      exact .none
  names _ := .none

/-- Two engines of which one gives its rows turned round, and one that turns them round after every
answer. -/
theorem readSchema_unordered_warehouse :
    let straight : Executor Unit := reciting (fun _ => warehouse false) id
    let turned : Executor Unit := reciting (fun _ => warehouse true) id
    let restless : Executor Bool := reciting warehouse not
    let link : Link Unit := ⟨(), {}, #[]⟩
    let reading := readSchema restless ⟨false, {}, #[]⟩
    (∃ schema, (readSchema straight link).1 = .ok schema) ∧
      SameShape (readSchema straight link).1 (readSchema turned link).1 ∧
      SameShape reading.1 (readSchema restless reading.2).1 := by
  intro straight turned restless link reading
  obtain ⟨hengines, hreadings⟩ := readSchema_unordered
  refine ⟨⟨_, rfl⟩, ?_, ?_⟩
  · exact hengines Unit Unit straight turned _ _ (fun _ => rfl) (fun _ => rfl)
      (warehouse_sameUpToOrder false true) link link
  · have hstays : Stays restless fun _ => True :=
      ⟨fun _ _ _ _ => trivial, fun _ _ _ _ => trivial⟩
    have halike : AnswerAlike restless (fun _ => True) restless fun _ => True :=
      fun engine engine' _ _ => warehouse_sameUpToOrder engine engine'
    exact (hreadings Bool restless _ hstays halike _ reading.2 trivial trivial).2

end Introspection

end RowParity
