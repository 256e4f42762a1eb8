import RowParity.Proofs.Campaign.Dialogue
import RowParity.Proofs.Catalog.Reading
import RowParity.Proofs.Workload.Pieces

/-!
# Work as dialogue

All the work on a database is a dialogue, the same one in all surroundings. For work on a link this
is meant literally (`Link.IsDialogue`). A step of a session also changes what the session has in
mind, its random source, its schema and its counts; there the dialogue starts from what it has in
mind and ends in what it has in mind then (`Step.IsDialogue`). Each function of the campaign is
walked through once.
-/

namespace RowParity

variable {α β : Type}

/-! ## Work on a link -/

namespace Link

/-- The work is the same dialogue in all surroundings. -/
def IsDialogue (work : ∀ σ, Setting σ → StateM (Link σ) α) : Prop :=
  ∃ d, ∀ σ (setting : Setting σ) link, work σ setting link = setting.hold d link

namespace IsDialogue

theorem pure (a : α) : IsDialogue fun _ _ => Pure.pure a :=
  ⟨.done a, fun _ _ _ => rfl⟩

theorem bind {work : ∀ σ, Setting σ → StateM (Link σ) α}
    {next : α → ∀ σ, Setting σ → StateM (Link σ) β} (h : IsDialogue work)
    (hnext : ∀ a, IsDialogue (next a)) :
    IsDialogue fun σ setting => work σ setting >>= fun a => next a σ setting := by
  obtain ⟨d, hd⟩ := h
  obtain ⟨rest, hrest⟩ := Classical.skolem.1 hnext
  refine ⟨d.bind rest, fun σ setting link => ?_⟩
  dsimp only
  rw [Link.bind_apply, hd, hrest, setting.hold_bind]

theorem put (speaker : Speaker) (request : Request) :
    IsDialogue fun _ setting => setting.put speaker request :=
  ⟨.ask speaker request .done, fun _ _ _ => rfl⟩

theorem fetch (sql : String) :
    IsDialogue fun _ setting => Link.ask .introspection sql setting.host.executor.fetch :=
  put .introspection (.fetch sql)

theorem columnNames (sql : String) :
    IsDialogue fun _ setting => Link.ask .introspection sql setting.host.executor.columnNames :=
  put .introspection (.columnNames sql)

theorem note (notice : Notice) : IsDialogue fun _ _ => Link.note notice :=
  ⟨.tell (.notice notice) (.done ()), fun _ _ _ => rfl⟩

end IsDialogue

end Link

/-! ## Introspection -/

namespace Introspection

theorem tableNames_isDialogue (failure : Option EngineError) (listings : List (String × String)) :
    Link.IsDialogue fun _ setting => tableNames setting.host.executor failure listings := by
  induction listings generalizing failure with
  | nil => exact .pure _
  | cons listing others ih =>
    obtain ⟨label, sql⟩ := listing
    refine .bind (.fetch sql) fun reply => ?_
    cases reply with
    | ok rows => exact .pure _
    | error e => exact .bind (.note _) fun _ => ih (some e)

theorem ColumnSource.isDialogue (table : String) (source : ColumnSource) :
    Link.IsDialogue fun _ setting => (source.strategy setting.host.executor).2 table := by
  cases source with
  | catalog => exact .bind (.fetch _) fun reply => .pure _
  | pragma => exact .bind (.fetch _) fun reply => .pure _
  | resultNames => exact .bind (.columnNames _) fun reply => .pure _

theorem firstColumns_isDialogue (table : String) (sources : List ColumnSource) :
    Link.IsDialogue fun _ setting =>
      firstColumns table (sources.map (ColumnSource.strategy setting.host.executor)) := by
  induction sources with
  | nil => exact .bind (.note _) fun _ => .pure _
  | cons source others ih =>
    have hsource := source.isDialogue table
    cases source <;> refine .bind hsource fun columns => ?_
    all_goals match columns with
      | .ok [] => exact .bind (.note _) fun _ => ih
      | .ok (column :: columns) => exact .bind (.note _) fun _ => .pure _
      | .error e => exact .bind (.note _) fun _ => ih

theorem indexesOf_isDialogue (table : String) :
    Link.IsDialogue fun _ setting => indexesOf setting.host.executor table := by
  refine .bind (.fetch _) fun reply => ?_
  cases reply with
  | ok rows => exact .pure _
  | error e => exact .bind (.note _) fun _ => .pure _

theorem readTables_isDialogue (names : List String) :
    Link.IsDialogue fun _ setting => readTables setting.host.executor names := by
  induction names with
  | nil => exact .pure _
  | cons name names ih =>
    exact .bind (firstColumns_isDialogue name ColumnSource.all) fun _ =>
      .bind (indexesOf_isDialogue name) fun _ => .bind ih fun _ => .pure _

theorem readSchema_isDialogue :
    Link.IsDialogue fun _ setting => readSchema setting.host.executor := by
  refine .bind (tableNames_isDialogue none listings) fun result => ?_
  cases result with
  | ok names => exact .bind (readTables_isDialogue _) fun _ => .pure _
  | error e => exact .pure _

end Introspection

/-! ## Steps of a session -/

/-- What a session has of its own, beside its link. -/
structure Mind where
  random : Random.Source
  schema : Schema
  stats : Stats

def Session.mind {σ : Type} (s : Session σ) : Mind :=
  ⟨s.random, s.schema, s.stats⟩

def Mind.over {σ : Type} (mind : Mind) (link : Link σ) : Session σ :=
  { link with random := mind.random, schema := mind.schema, stats := mind.stats }

namespace Step

/-- The step is a dialogue that starts from what the session has in mind and gives its value with
what the session has in mind then. -/
def IsDialogue (step : ∀ σ, Setting σ → Step σ α) : Prop :=
  ∃ d : Mind → Dialogue (α × Mind), ∀ σ (setting : Setting σ) (s : Session σ),
    step σ setting s =
      ((setting.hold (d s.mind) s.toLink).1.1,
        (setting.hold (d s.mind) s.toLink).1.2.over (setting.hold (d s.mind) s.toLink).2)

namespace IsDialogue

theorem pure (a : α) : IsDialogue fun _ _ => Pure.pure a :=
  ⟨fun mind => .done (a, mind), fun _ _ _ => rfl⟩

theorem bind {step : ∀ σ, Setting σ → Step σ α} {next : α → ∀ σ, Setting σ → Step σ β}
    (h : IsDialogue step) (hnext : ∀ a, IsDialogue (next a)) :
    IsDialogue fun σ setting => step σ setting >>= fun a => next a σ setting := by
  obtain ⟨d, hd⟩ := h
  obtain ⟨rest, hrest⟩ := Classical.skolem.1 hnext
  refine ⟨fun mind => (d mind).bind fun held => rest held.1 held.2, fun σ setting s => ?_⟩
  dsimp only
  rw [Step.bind_apply, hd, hrest, setting.hold_bind]
  rfl

theorem onLink {work : ∀ σ, Setting σ → StateM (Link σ) α} (h : Link.IsDialogue work) :
    IsDialogue fun σ setting => Step.onLink (work σ setting) := by
  obtain ⟨d, hd⟩ := h
  refine ⟨fun mind => d.bind fun a => .done (a, mind), fun σ setting s => ?_⟩
  unfold Step.onLink
  dsimp only
  rw [hd, setting.hold_bind]
  rfl

theorem draw (d : Draw α) : IsDialogue fun _ _ => Step.draw d :=
  ⟨fun mind => .done ((d mind.random).1, { mind with random := (d mind.random).2 }),
    fun _ _ _ => rfl⟩

theorem schema : IsDialogue fun _ _ => Step.schema :=
  ⟨fun mind => .done (mind.schema, mind), fun _ _ _ => rfl⟩

theorem report (event : Event) : IsDialogue fun _ _ => Step.report event :=
  ⟨fun mind => .tell (.event event) (.done ((), mind)), fun _ _ _ => rfl⟩

theorem count (change : Stats → Stats) : IsDialogue fun _ _ => Step.count change :=
  ⟨fun mind => .done ((), { mind with stats := change mind.stats }), fun _ _ _ => rfl⟩

theorem installSchema (schema : Schema) : IsDialogue fun _ _ => Step.installSchema schema :=
  ⟨fun mind => .done ((), { mind with schema }), fun _ _ _ => rfl⟩

end IsDialogue

end Step

/-! ## Actions of a session -/

namespace Action

theorem result_bind_eq {σ : Type} (action : Action σ α) (next : α → Action σ β) :
    (action >>= next).result = action.result >>= fun
      | .ok a => (next a).result
      | .error e => Pure.pure (.error e) := by
  funext s
  rw [result_bind, Step.bind_apply]
  rcases action.result s with ⟨_ | _, _⟩ <;> rfl

def IsDialogue (action : ∀ σ, Setting σ → Action σ α) : Prop :=
  Step.IsDialogue fun σ setting => (action σ setting).result

namespace IsDialogue

theorem pure (a : α) : IsDialogue fun _ _ => Pure.pure a :=
  Step.IsDialogue.pure (Except.ok a)

theorem throw (e : RunError) : IsDialogue (α := α) fun _ _ => MonadExcept.throw e :=
  Step.IsDialogue.pure (Except.error e)

theorem bind {action : ∀ σ, Setting σ → Action σ α} {next : α → ∀ σ, Setting σ → Action σ β}
    (h : IsDialogue action) (hnext : ∀ a, IsDialogue (next a)) :
    IsDialogue fun σ setting => action σ setting >>= fun a => next a σ setting := by
  unfold IsDialogue
  simp only [result_bind_eq]
  refine Step.IsDialogue.bind h fun result => ?_
  cases result with
  | ok a => exact hnext a
  | error e => exact .pure _

theorem ofStep {step : ∀ σ, Setting σ → Step σ α} (h : Step.IsDialogue step) :
    IsDialogue fun σ setting => (step σ setting).toAction :=
  h.bind fun a => .pure (Except.ok a)

theorem attempt {action : ∀ σ, Setting σ → Action σ α} (h : IsDialogue action) :
    IsDialogue fun σ setting => Action.attempt (action σ setting) :=
  ofStep h

theorem info (message : String) : IsDialogue fun _ _ => Action.info message :=
  ofStep (.report _)

theorem exception (e : RunError) (sql : Option String) :
    IsDialogue fun _ _ => Action.exception e sql :=
  ofStep (.report _)

theorem ofEngine (answer : Except EngineError α) :
    IsDialogue fun _ _ => Action.ofEngine answer := by
  cases answer with
  | ok a => exact .pure a
  | error e => exact .throw _

end IsDialogue

theorem execute_isDialogue (sql : String) :
    IsDialogue fun _ setting => execute setting.host.executor sql :=
  .bind (.ofStep (.report _)) fun _ =>
    .bind (.ofStep (.onLink (.put .session (.execute sql)))) fun answer => .ofEngine answer

theorem fetch_isDialogue (sql : String) :
    IsDialogue fun _ setting => fetch setting.host.executor sql :=
  .bind (.ofStep (.report _)) fun _ =>
    .bind (.ofStep (.onLink (.put .session (.fetch sql)))) fun answer => .ofEngine answer

theorem renewSchemaOnce_isDialogue :
    IsDialogue fun _ setting => renewSchemaOnce setting.host.executor := by
  refine .bind (.ofStep (.onLink Introspection.readSchema_isDialogue)) fun answer => ?_
  cases answer with
  | ok schema => exact .bind (.info _) fun _ => .ofStep (.installSchema schema)
  | error e => exact .throw e

theorem renewSchema_isDialogue :
    IsDialogue fun _ setting => renewSchema setting.host.executor := by
  refine .bind (.attempt renewSchemaOnce_isDialogue) fun first => ?_
  cases first with
  | ok _ => exact .pure ()
  | error first =>
    refine .bind (.exception first none) fun _ =>
      .bind (.attempt renewSchemaOnce_isDialogue) fun second => ?_
    cases second with
    | ok _ => exact .pure ()
    | error second => exact .throw _

theorem tryExecute_isDialogue (sql : String) :
    IsDialogue fun _ setting => tryExecute setting.host.executor sql := by
  refine .bind (.attempt (execute_isDialogue sql)) fun answer => ?_
  cases answer with
  | ok _ => exact .pure true
  | error e =>
    dsimp only
    split
    · exact .throw e
    · exact .bind (.exception e _) fun _ => .pure false

theorem isEmptyTable_isDialogue (table : Table) :
    IsDialogue fun _ setting => isEmptyTable setting.host.executor table := by
  refine .bind (.attempt (fetch_isDialogue _)) fun answer => ?_
  cases answer with
  | ok rows => exact .pure _
  | error e =>
    dsimp only
    split
    · exact .throw e
    · exact .bind (.exception e _) fun _ => .pure false

theorem isDialogue_closed :
    Workload.Closed fun _ work => IsDialogue fun σ setting => work σ setting.host.executor where
  pure := .pure
  bind h hnext := .bind h hnext
  draw d := .ofStep (.draw d)
  schema := .ofStep .schema
  info := .info
  tryExecute := tryExecute_isDialogue
  isEmptyTable := isEmptyTable_isDialogue

end Action

/-! ## Checks -/

namespace Check

theorem plan_isDialogue (sql : String) :
    Step.IsDialogue fun _ setting => plan setting.host.executor sql := by
  refine .bind (Action.fetch_isDialogue _) fun answer => ?_
  cases answer with
  | ok rows => exact .pure _
  | error e => exact .bind (.report _) fun _ => .pure _

theorem judge_isDialogue (base rewritten : String) (baseRows rewrittenRows : List Row) :
    Step.IsDialogue fun _ setting =>
      judge setting.host.executor base rewritten baseRows rewrittenRows := by
  unfold judge
  split
  · exact .pure _
  · exact .bind (plan_isDialogue _) fun _ => .bind (plan_isDialogue _) fun _ => .pure _

theorem compareForms_isDialogue (base : String) :
    Step.IsDialogue fun _ setting => compareForms setting.host.executor base := by
  refine .bind (Action.fetch_isDialogue _) fun first => ?_
  cases first with
  | error e => exact .pure _
  | ok baseRows =>
    refine .bind (Action.fetch_isDialogue _) fun second => ?_
    cases second with
    | error e => exact .pure _
    | ok rewrittenRows => exact .bind (judge_isDialogue _ _ _ _) fun _ => .pure _

theorem drawAndCompare_isDialogue (memory : Memory) :
    Step.IsDialogue fun _ setting => drawAndCompare setting.host.executor memory := by
  refine .bind .schema fun schema => .bind (.draw _) fun drawn => ?_
  cases drawn with
  | error e => exact .pure _
  | ok base => exact compareForms_isDialogue base

theorem record_isDialogue (outcome : Outcome) : Step.IsDialogue fun _ _ => record outcome := by
  cases outcome with
  | pass rows => exact .bind (.count _) fun _ => .report _
  | mismatch f => exact .bind (.report _) fun _ => .count _
  | expectedError message pattern => exact .bind (.count _) fun _ => .report _

theorem settle_isDialogue (memory : Memory) (result : Except RunError Outcome) :
    Step.IsDialogue fun _ _ => settle memory result := by
  cases result with
  | ok outcome => exact .bind (record_isDialogue outcome) fun _ => .pure _
  | error e =>
    unfold settle
    dsimp only
    cases expected? e with
    | some outcome => exact .bind (record_isDialogue outcome) fun _ => .pure _
    | none =>
      dsimp only
      split
      · exact .bind (.report _) fun _ => .pure _
      · exact .bind (.pure _) fun _ => .pure _

theorem run_isDialogue (memory : Memory) :
    Step.IsDialogue fun _ setting => run setting.host.executor memory :=
  .bind (.count _) fun _ => .bind (drawAndCompare_isDialogue memory) fun compared =>
    .bind (settle_isDialogue compared.2 compared.1) fun _ => .pure _

theorem oracle_isDialogue (memory : Memory) :
    Step.IsDialogue fun _ setting => (oracle setting.host.executor).check memory :=
  .bind (run_isDialogue memory) fun _ => .pure _

end Check

theorem Suite.runMembers_isDialogue (members : List Check.Memory) :
    Step.IsDialogue fun _ setting => runMembers (Check.oracle setting.host.executor) members := by
  induction members with
  | nil => exact .pure _
  | cons memory members ih =>
    refine .bind (Check.oracle_isDialogue memory) fun checked => ?_
    obtain ⟨result, memory⟩ := checked
    cases result with
    | error e => exact .pure _
    | ok _ => exact .bind ih fun _ => .pure _

theorem Panel.check_isDialogue (panel : Panel) :
    Step.IsDialogue fun _ setting => (Panel.oracle setting.host.executor).check panel := by
  cases panel with
  | alone memory => exact .bind (Check.oracle_isDialogue memory) fun _ => .pure _
  | suite suite =>
    exact .bind (.bind (Suite.runMembers_isDialogue suite.members) fun _ => .pure _) fun _ =>
      .pure _

/-! ## The work on a database -/

namespace Campaign

variable (plan : Plan)

theorem prepare_isDialogue :
    Action.IsDialogue fun _ setting => prepare setting.host plan := by
  have closed := Action.isDialogue_closed
  refine .bind Action.renewSchema_isDialogue fun _ =>
    .bind (.ofStep (.onLink (.put .session .wallClock))) fun millis =>
      .bind (closed.fillDatabase Action.renewSchema_isDialogue millis) fun _ => ?_
  cases plan.needsRows with
  | true => exact .bind closed.topUp fun _ => .pure ()
  | false => exact .pure ()

theorem maybeMutate_isDialogue :
    Action.IsDialogue fun _ setting => maybeMutate setting.host plan := by
  refine .bind (.ofStep (.draw _)) fun mutates => ?_
  cases mutates with
  | true => exact .bind Action.isDialogue_closed.updateRows fun _ => .pure ()
  | false => exact .pure ()

theorem round_isDialogue (panel : Panel) :
    Step.IsDialogue fun _ setting => round setting.host plan panel := by
  refine .bind (maybeMutate_isDialogue plan) fun result => ?_
  cases result with
  | error e => exact .pure _
  | ok _ => exact Panel.check_isDialogue panel

theorem rounds_isDialogue (n : Nat) (panel : Panel) :
    Step.IsDialogue fun _ setting => rounds setting.host plan setting.deadline n panel := by
  induction n generalizing panel with
  | zero => exact .pure _
  | succ n ih =>
    refine .bind (.onLink (.put .session .budget)) fun spent => ?_
    cases spent with
    | true => exact .pure _
    | false =>
      refine .bind (round_isDialogue plan panel) fun rounded => ?_
      obtain ⟨result, panel⟩ := rounded
      cases result with
      | error e => exact .pure _
      | ok _ => exact ih panel

/-- **All the work on a database is one dialogue**, whatever the surroundings. -/
theorem workDatabase_isDialogue :
    Step.IsDialogue fun _ setting => workDatabase setting.host plan setting.deadline := by
  refine .bind (prepare_isDialogue plan) fun result => ?_
  cases result with
  | error e => exact .pure _
  | ok _ => exact rounds_isDialogue plan plan.rounds _

end Campaign

end RowParity
