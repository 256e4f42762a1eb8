import RowParity.Proofs.Session.Attempts
import RowParity.Proofs.Workload.Seeding

/-!
# Filling a database

What filling a database comes to when it succeeds, whatever the executor answers. A `Filling` has
three parts in order: tables are created, the schema is read anew, and rows are added to the tables
that were created (`Filling.Runs`). From it follow the contract of filling (`fillDatabase_filled`)
and how many rows each table is sent (`fillDatabase_seeds`).
-/

namespace RowParity

variable {σ α β : Type} {x : Executor σ}

/-! ## The parts of filling -/

/-- The parts of filling a database. -/
structure Filling where
  runId : Nat
  creations : List Creation
  first : Attempt
  second? : Option Attempt
  seedings : List Seeding

namespace Filling

def creating (filling : Filling) : List Trial :=
  filling.creations.map Creation.trial

def seeding (filling : Filling) : List Trial :=
  filling.seedings.flatMap Seeding.trials

/-- The statements that the session sends, without those of the introspection. -/
def statements (filling : Filling) : List String :=
  (filling.creating ++ filling.seeding).map Trial.sql

/-- The tables that were created. -/
def created (filling : Filling) : List Table :=
  Creation.accepted filling.creations

/-- The attempt that the schema was read in. -/
def reading (filling : Filling) : Attempt :=
  filling.second?.getD filling.first

/-- The three parts follow one another, from `s` over `s₁` and `s₂` to `s'`. -/
structure Runs (x : Executor σ) (millis : Int) (filling : Filling) (s s₁ s₂ s' : Session σ) :
    Prop where
  count : 2 ≤ filling.creations.length ∧ filling.creations.length ≤ 4
  created : Created millis filling.runId filling.creations.length 0 filling.creations
    (.ok filling.created)
  creatingRun : Course x s (filling.creating.map Trial.deed) none s₁
  renewal : Renewal x s₁ filling.first filling.second? (.ok ()) s₂
  seeded : Seeded s₂.schema filling.created filling.seedings (.ok ())
  seedingRun : Course x s₂ (filling.seeding.map Trial.deed) none s'

end Filling

namespace Action

theorem bind_ok {action : Action σ α} {next : α → Action σ β} {s s' : Session σ} {b : β}
    (h : (action >>= next) s = .ok b s') :
    ∃ a s₁, action s = .ok a s₁ ∧ next a s₁ = .ok b s' := by
  have hbind : (action >>= next) s = EStateM.bind action next s := rfl
  rw [hbind, EStateM.bind] at h
  cases hrun : action s with
  | ok a s₁ =>
    rw [hrun] at h
    exact ⟨a, s₁, rfl, h⟩
  | error e s₁ =>
    rw [hrun] at h
    cases h

theorem draw_ok {d : Draw α} {s s' : Session σ} {a : α} (h : draw d s = .ok a s') :
    a = (d s.random).1 ∧ s' = (Step.draw d s).2 := by
  cases h
  exact ⟨rfl, rfl⟩

theorem info_ok {message : String} {s s' : Session σ} {u : Unit}
    (h : info message s = .ok u s') : s' = (Step.info message s).2 := by
  cases h
  rfl

theorem schema_ok {s s' : Session σ} {schema : Schema} (h : Action.schema s = .ok schema s') :
    s' = s := by
  cases h
  rfl

theorem renewal_of_ok {s s' : Session σ} (h : renewSchema x s = .ok () s') :
    ∃ first second?, Renewal x s first second? (.ok ()) s' := by
  obtain ⟨first, link₁, hfirst⟩ := Attempt.exists_isMade x s.toLink
  have hrun := result_ok h
  cases hresult : first.result with
  | ok schema =>
    have hrenewal := renewal_first hfirst hresult
    rw [hrun] at hrenewal
    exact ⟨first, none, hrenewal⟩
  | error e =>
    obtain ⟨second, link₂, hsecond⟩ := Attempt.exists_isMade x (afterFailure s link₁ e).toLink
    have hrenewal := renewal_second hfirst hresult hsecond
    rw [hrun] at hrenewal
    exact ⟨first, some second, hrenewal⟩

theorem tableCount_mem (source : Random.Source) :
    2 ≤ (Random.int32In 2 4 source).1.toNat ∧ (Random.int32In 2 4 source).1.toNat ≤ 4 := by
  have hmem := Random.int32In_mem (a := 2) (b := 4) (by decide) (by decide) source
  omega

/-- A filling that succeeds has all its parts. -/
theorem runs_of_ok {millis : Int} {s s' : Session σ} {names : List String}
    (h : fillDatabase x millis s = .ok names s') :
    ∃ filling s₁ s₂, Filling.Runs x millis filling s s₁ s₂ s' ∧
      names = filling.created.map Table.name := by
  unfold fillDatabase at h
  obtain ⟨count, s₁, hcount, h⟩ := bind_ok h
  obtain ⟨_, s₂, hinfo, h⟩ := bind_ok h
  obtain ⟨runId, s₃, hrunId, h⟩ := bind_ok h
  obtain ⟨created, s₄, hcreate, h⟩ := bind_ok h
  obtain ⟨_, s₅, hrenew, h⟩ := bind_ok h
  obtain ⟨_, s₆, hinfo₂, h⟩ := bind_ok h
  obtain ⟨_, s₇, hseed, h⟩ := bind_ok h
  obtain ⟨schema, s₈, hschema, h⟩ := bind_ok h
  obtain ⟨_, s₉, hinfo₃, h⟩ := bind_ok h
  cases h
  obtain ⟨trials, ⟨creations, rfl, hcreated⟩, hcreating⟩ :=
    (createTables_tries x s₃.schema millis _ _ 0).of_ok hcreate
  obtain ⟨first, second?, hrenewal⟩ := renewal_of_ok hrenew
  obtain ⟨trials', ⟨seedings, rfl, hseeded⟩, hseeding⟩ :=
    (seedTables_tries x s₆.schema created).of_ok hseed
  have hlength := hcreated.length_eq
  have hcounted : 2 ≤ count.toNat ∧ count.toNat ≤ 4 := by
    rw [(draw_ok hcount).1]
    exact tableCount_mem s.random
  rw [← hlength] at hcreated hcounted
  cases hcreated.accepted_eq
  cases (draw_ok hcount).2
  cases info_ok hinfo
  cases (draw_ok hrunId).2
  cases info_ok hinfo₂
  cases schema_ok hschema
  have hlast : Course x s₇ [] none s' := by
    rw [info_ok hinfo₃]
    exact .informed _ (.done _)
  have hrest := hseeding.append hlast
  rw [List.append_nil] at hrest
  exact ⟨⟨_, creations, first, second?, seedings⟩, _, _, ⟨hcounted, hcreated,
    .drew _ (.informed _ (.drew _ hcreating)), hrenewal, hseeded, .informed _ hrest⟩, rfl⟩

end Action

/-! ## Steady executors -/

theorem Action.eq_of_mapError {reply : Except EngineError α} {e : EngineError}
    (h : reply.mapError RunError.engine = .error (.engine e)) : reply = .error e := by
  cases reply with
  | ok a => cases h
  | error e' =>
    cases h
    rfl

/-- Whatever is sent, the connection is well, and the tables can be listed. -/
structure Executor.IsSteady (x : Executor σ) : Prop where
  execute : ∀ sql engine message, (x.execute sql engine).1.result ≠ .error (.connection message)
  fetch : ∀ sql engine message, (x.fetch sql engine).1.result ≠ .error (.connection message)
  listed : ∀ link, ∃ schema, (Introspection.readSchema x link).1 = .ok schema

namespace Executor.IsSteady

variable (h : x.IsSteady)

include h

theorem not_fatal {s s' : Session σ} {deed : Deed} {e : RunError} : ¬Fatal x s deed e s' := by
  intro hfatal
  cases hfatal with
  | @lost _ sql message sent =>
    have hexecute := h.execute sql s.engine message
    have hfetch := h.fetch sql s.engine message
    cases sent with
    | refused ran =>
      have hrun := Action.execute_result x sql s
      rw [Action.result_error ran] at hrun
      exact hexecute (Action.eq_of_mapError (Prod.mk.inj hrun).1.symm)
    | unfetched ran =>
      have hrun := Action.fetch_result x sql s
      rw [Action.result_error ran] at hrun
      exact hfetch (Action.eq_of_mapError (Prod.mk.inj hrun).1.symm)
  | unreadable failed =>
    obtain ⟨schema, hread⟩ := h.listed s.toLink
    rw [Action.renewSchemaOnce_eq] at failed
    split at failed
    · next hfailed =>
      rw [hfailed] at hread
      cases hread
    · cases failed

/-- **Over a steady executor a workload always succeeds.** -/
theorem ok_of_coursed {Kind : Deed → Prop} {action : Action σ α} (hcoursed : action.Coursed x Kind)
    (s : Session σ) : ∃ a s', action s = .ok a s' := by
  cases hrun : action s with
  | ok a s' => exact ⟨a, s', rfl⟩
  | error e s' =>
    obtain ⟨deeds, -, hcourse⟩ := hcoursed s
    rw [Action.result_error hrun] at hcourse
    cases Concluded.of_course hcourse with
    | broken _ _ fatal => exact absurd fatal h.not_fatal

theorem fillDatabase_ok (millis : Int) (s : Session σ) :
    ∃ names s', Action.fillDatabase x millis s = .ok names s' :=
  h.ok_of_coursed (Action.fillDatabase_coursed x millis) s

theorem renewSchema_ok (s : Session σ) : ∃ s', Action.renewSchema x s = .ok () s' := by
  have hcoursed : (Action.renewSchema x).Coursed x fun _ => True :=
    Action.renewSchema_coursed x fun _ => trivial
  obtain ⟨_, s', hrun⟩ := h.ok_of_coursed hcoursed s
  exact ⟨s', hrun⟩

end Executor.IsSteady

/-- An engine that takes every other statement and holds no tables. -/
def fitful : Executor Bool where
  execute sql := fun takes =>
    ({ result := if takes then .ok () else .error (.statement sql "try again") }, !takes)
  fetch _ := pure { result := .ok [] }
  columnNames _ := pure { result := .ok [] }
  isAlive := pure true

theorem fitful_isSteady : fitful.IsSteady where
  execute sql takes message h := by
    cases takes <;> cases h
  fetch _ _ _ h := by cases h
  listed link := by
    rw [Introspection.readSchema_eq]
    exact ⟨_, rfl⟩

theorem Renewal.statements_eq {s s' : Session σ} {first : Attempt} {second? : Option Attempt}
    {result : Except RunError Unit} (h : Renewal x s first second? result s') :
    s'.statements = s.statements := by
  have hnone (attempt : Attempt) : attempt.sent.filterMap Sent.ofSession? = [] := by
    simp [Attempt.sent, List.filterMap_map, Sent.ofSession?, Function.comp_def]
  have hall (attempts : List Attempt) :
      (attempts.flatMap Attempt.sent).filterMap Sent.ofSession? = [] := by
    rw [List.filterMap_flatMap]
    simp [hnone]
  rw [Link.statements, h.sent_eq, List.filterMap_append, hall, List.append_nil, Link.statements]

/-! ## The contract -/

namespace Filling

/-- Rows of a filling that went through name the table that was created, up to the case of
letters. -/
theorem Runs.target {millis : Int} {filling : Filling} {s s₁ s₂ s' : Session σ}
    (h : filling.Runs x millis s s₁ s₂ s') : ∀ seeding ∈ filling.seedings,
    ∀ trial ∈ seeding.trials, ∃ target, Sql.insertTarget? trial.sql = some target ∧
      Text.equalIgnoringCase target seeding.created.name = true := by
  intro seeding hseeding trial htrial
  obtain ⟨hcreated, hsettled⟩ := h.seeded.of_ok
  obtain ⟨trials, htrials, hmem⟩ := List.mem_flatten.1 htrial
  obtain ⟨added, hrow⟩ := (hsettled seeding hseeding).rows trials htrials
  have hname := s₂.schema.equalIgnoringCase_visible seeding.created
  rw [← (hsettled seeding hseeding).used_eq] at hname
  have hmember : seeding.created ∈ filling.created :=
    hcreated ▸ List.mem_map_of_mem hseeding
  obtain ⟨j, hj, -⟩ := h.created.exists_generated _ hmember
  refine ⟨seeding.used.name, (hrow.yieldsRow trial hmem).insertTarget?_eq ?_, hname⟩
  rw [hj] at hname
  exact Generate.blank_not_mem hname

namespace Runs

variable {millis : Int} {filling : Filling} {s s₁ s₂ s' : Session σ}
  (h : filling.Runs x millis s s₁ s₂ s')

include h

theorem statements_eq : s'.statements = s.statements ++ filling.statements := by
  rw [h.seedingRun.sends_trials.statements_eq, h.renewal.statements_eq,
    h.creatingRun.sends_trials.statements_eq, List.append_assoc, statements, List.map_append]

/-- The statements that add rows to a table are the trials of its seeding. -/
theorem countP_addsTo {seeding : Seeding} (hmember : seeding ∈ filling.seedings) :
    filling.statements.countP (Sql.addsTo seeding.created.name) = seeding.trials.length := by
  have hcreating : (filling.creating.map Trial.sql).countP
      (Sql.addsTo seeding.created.name) = 0 := by
    refine List.countP_eq_zero.2 fun sql hsql => ?_
    rw [creating, List.map_map] at hsql
    obtain ⟨creation, -, rfl⟩ := List.mem_map.1 hsql
    have htarget : Sql.insertTarget? creation.trial.sql = none :=
      creation.table.insertTarget?_createStatement
    simp [Sql.addsTo, htarget]
  have hdifferent := h.created.pairwise_names
  rw [← h.seeded.of_ok.1, List.pairwise_map] at hdifferent
  rw [statements, List.map_append, List.countP_append, hcreating, Nat.zero_add, List.countP_map]
  exact Seeding.countP_addsTo hmember h.target hdifferent

end Runs

/-- What is asked of a filling that succeeded with these names. -/
structure IsMade (x : Executor σ) (millis : Int) (filling : Filling) (s : Session σ)
    (names : List String) (s' : Session σ) : Prop where
  /-- The trials and attempts are those of the executor. -/
  runs : ∃ s₁ s₂, filling.Runs x millis s s₁ s₂ s'
  /-- Two to four tables, one for each ordinal. -/
  count : 2 ≤ filling.creations.length ∧ filling.creations.length ≤ 4
  ordinals : filling.creations.map (·.table.name) =
    (List.range filling.creations.length).map (Generate.tableName · millis filling.runId)
  /-- First the tables are created, then the schema is read, then the rows are added. -/
  sent_eq : s'.transcript.toList = s.transcript.toList ++
    filling.creations.map (fun creation => ⟨.session, creation.table.createStatement⟩) ++
    (filling.first :: filling.second?.toList).flatMap Attempt.sent ++
    filling.seeding.map fun trial => ⟨.session, trial.sql⟩
  /-- The names are those of the accepted tables, in order. -/
  names_eq : names =
    (filling.creations.filter (·.trial.isAccepted)).map fun creation => creation.table.name
  nodup : names.Nodup
  answered : ∀ trial ∈ filling.creating ++ filling.seeding, trial.isRejected = !trial.isAccepted
  /-- Rows are added to each of the created tables in turn, under its name up to case. -/
  seeded_eq : filling.seedings.map (·.created.name) = names
  target : ∀ seeding ∈ filling.seedings, ∀ trial ∈ seeding.trials, ∃ target,
    Sql.insertTarget? trial.sql = some target ∧
      Text.equalIgnoringCase target seeding.created.name = true
  /-- One to three rows for each of them, each in at most two forms, of which one is accepted at
  most. -/
  rows : ∀ seeding ∈ filling.seedings, 1 ≤ seeding.rows.length ∧ seeding.rows.length ≤ 3 ∧
    ∀ trials ∈ seeding.rows, trials.length ≤ 2 ∧ trials.countP Trial.isAccepted ≤ 1
  /-- The schema is the one that was read. -/
  schema_eq : filling.reading.result = .ok s'.schema
  stats_eq : s'.stats = s.stats
  /-- There is a second attempt exactly after a failure of the first one. -/
  again_iff : filling.second?.isSome = true ↔ filling.first.IsFailed
  errors_eq : s'.journal.errors.length = s.journal.errors.length +
    (filling.creating ++ filling.seeding).countP Trial.isRejected +
    if filling.second?.isSome then 1 else 0

end Filling

/-- The error events of a refresh that succeeds: its first failure, if there was one. -/
theorem Renewal.length_errors {s s' : Session σ} {first : Attempt} {second? : Option Attempt}
    (h : Renewal x s first second? (.ok ()) s') :
    s'.journal.errors.length = s.journal.errors.length + if second?.isSome then 1 else 0 := by
  have hsuccess (attempt : Attempt) : attempt.successEvents.filterMap Event.error? = [] := by
    unfold Attempt.successEvents
    split <;> rfl
  rw [Journal.errors, h.events_eq, List.filterMap_append, List.filterMap_append, hsuccess,
    List.append_nil, List.length_append, ← Journal.errors, Attempt.failureEvents]
  cases hresult : first.result with
  | ok schema =>
    have hagain := h.again_iff.not.2 (Attempt.not_isFailed_of_ok hresult)
    rw [if_neg hagain]
    rfl
  | error e =>
    rw [if_pos (h.again_iff.2 ⟨e, hresult⟩)]
    rfl

/-- The schema after a refresh that succeeds is the one that its last attempt has read. -/
theorem Renewal.result_eq {s s' : Session σ} {first : Attempt} {second? : Option Attempt}
    (h : Renewal x s first second? (.ok ()) s') :
    (second?.getD first).result = .ok s'.schema := by
  cases hresult : (second?.getD first).result with
  | ok schema => rw [(h.installed schema hresult).2]
  | error e => cases (h.kept e hresult).1

namespace Action

/-- **The contract of filling a database.** Whatever the executor answers, a filling that succeeds
creates two to four tables, reads the schema anew and then adds rows to those that were accepted,
whose names it gives; rejected statements and a first failure of the reading are its only errors. -/
theorem fillDatabase_filled (x : Executor σ) (millis : Int) (s s' : Session σ)
    (names : List String) (h : fillDatabase x millis s = .ok names s') :
    ∃ filling, Filling.IsMade x millis filling s names s' := by
  obtain ⟨filling, s₁, s₂, hruns, rfl⟩ := runs_of_ok h
  have hcreating := hruns.creatingRun.sends_trials
  have hseeding := hruns.seedingRun.sends_trials
  obtain ⟨hcreated, hsettled⟩ := hruns.seeded.of_ok
  refine ⟨filling, ⟨⟨s₁, s₂, hruns⟩, hruns.count, ?_, ?_, ?_, hruns.created.nodup_names, ?_, ?_,
    hruns.target, ?_, ?_, ?_, hruns.renewal.again_iff, ?_⟩⟩
  · rw [hruns.created.names_eq, List.range_eq_range']
  · rw [hseeding.transcript_eq, hruns.renewal.sent_eq, hcreating.transcript_eq]
    simp only [Filling.creating, List.map_map, List.append_assoc]
    rfl
  · rw [Filling.created, Creation.accepted, List.map_map]
    rfl
  · exact List.forall_mem_append.2
      ⟨hruns.creatingRun.isRejected_eq, hruns.seedingRun.isRejected_eq⟩
  · rw [← hcreated, List.map_map]
    rfl
  · intro seeding hmember
    obtain ⟨-, ⟨hleast, hmost⟩, hrows⟩ := hsettled seeding hmember
    refine ⟨hleast, hmost, fun trials htrials => ?_⟩
    obtain ⟨added, hrow⟩ := hrows trials htrials
    exact ⟨hrow.length_le, hrow.countP_isAccepted_le⟩
  · rw [hseeding.schema_eq]
    exact hruns.renewal.result_eq
  · rw [hseeding.stats_eq, hruns.renewal.stats_eq, hcreating.stats_eq]
  · rw [hruns.seedingRun.length_errors, hruns.renewal.length_errors,
      hruns.creatingRun.length_errors, List.countP_append]
    omega

theorem fillDatabase_filled_fitful :
    ∃ names s' filling,
      fillDatabase fitful 1700000000000 (.start ⟨true, {}, #[]⟩ 7) = .ok names s' ∧
      Filling.IsMade fitful 1700000000000 filling (.start ⟨true, {}, #[]⟩ 7) names s' := by
  obtain ⟨names, s', hrun⟩ :=
    fitful_isSteady.fillDatabase_ok 1700000000000 (.start ⟨true, {}, #[]⟩ 7)
  obtain ⟨filling, hmade⟩ := fillDatabase_filled fitful 1700000000000 _ s' names hrun
  exact ⟨names, s', filling, hrun, hmade⟩

/-- **Rows for every table.** A filling that succeeds draws one to three rows for each table that it
names. If the schema that was read has the table without columns, no statement adds rows to it; else
one or two statements are sent for each row. -/
theorem fillDatabase_seeds (x : Executor σ) (millis : Int) (s s' : Session σ)
    (names : List String) (h : fillDatabase x millis s = .ok names s') :
    ∃ sqls, s'.statements = s.statements ++ sqls ∧ ∀ name ∈ names, ∃ rows, 1 ≤ rows ∧ rows ≤ 3 ∧
      (s'.schema.LacksColumns name → sqls.countP (Sql.addsTo name) = 0) ∧
      (¬s'.schema.LacksColumns name →
        rows ≤ sqls.countP (Sql.addsTo name) ∧ sqls.countP (Sql.addsTo name) ≤ 2 * rows) := by
  obtain ⟨filling, s₁, s₂, hruns, rfl⟩ := runs_of_ok h
  obtain ⟨hcreated, hsettled⟩ := hruns.seeded.of_ok
  refine ⟨filling.statements, hruns.statements_eq, ?_⟩
  rw [← hcreated, List.map_map, List.forall_mem_map]
  intro seeding hmember
  have hcount := hruns.countP_addsTo hmember
  have hseeded := hsettled seeding hmember
  obtain ⟨j, -, hcolumns⟩ := hruns.created.exists_generated seeding.created
    (hcreated ▸ List.mem_map_of_mem hmember)
  have hlacks : seeding.used.columns = [] ↔ s'.schema.LacksColumns seeding.created.name := by
    rw [hseeded.used_eq, hruns.seedingRun.sends_trials.schema_eq]
    exact Schema.visible_columns_eq_nil hcolumns
  refine ⟨seeding.rows.length, hseeded.count.1, hseeded.count.2, fun hnone => ?_, fun hsome => ?_⟩
  · have hnil := hseeded.trials_eq_nil (hlacks.2 hnone)
    exact hcount.trans (by rw [hnil]; rfl)
  · have hlength := hseeded.length_trials (mt hlacks.1 hsome)
    rw [← hcount] at hlength
    exact hlength

/-- An engine that lists the first table that was created and tells nothing else of it. -/
def forgetful : Executor (List String) where
  execute sql := fun names =>
    ({ result := .ok () }, names ++ ((Table.ofCreateStatement? sql).map Table.name).toList)
  fetch sql := fun names =>
    ({ result := if sql ∈ Introspection.listings.map Prod.snd then
        .ok ((names.take 1).map fun name => [.text name])
      else .error (.statement sql "not ready") }, names)
  columnNames sql := pure { result := .error (.statement sql "not ready") }
  isAlive := pure true

/-- Whether the run went through and its schema lacks the columns of the first table it named. -/
def lacksFirst (run : Except RunError (List String) × Session (List String)) : Bool :=
  match run with
  | (.ok (name :: _), s) => (s.schema.table? name).any fun table => table.columns.isEmpty
  | _ => false

theorem fillDatabase_seeds_forgetful :
    ∃ name names s' sqls,
      fillDatabase forgetful 1700000000000 (.start ⟨[], {}, #[]⟩ 7) = .ok (name :: names) s' ∧
        s'.statements = sqls ∧ s'.schema.LacksColumns name ∧
          sqls.countP (Sql.addsTo name) = 0 := by
  have hlacks : lacksFirst ((fillDatabase forgetful 1700000000000).result
      (.start ⟨[], {}, #[]⟩ 7)) = true := by decide +kernel
  cases hrun : fillDatabase forgetful 1700000000000 (.start ⟨[], {}, #[]⟩ 7) with
  | error e s' =>
    rw [result_error hrun] at hlacks
    cases hlacks
  | ok names s' =>
    rw [result_ok hrun] at hlacks
    cases names with
    | nil => cases hlacks
    | cons name names =>
      have hcolumns : s'.schema.LacksColumns name := by
        obtain ⟨table, htable, hempty⟩ := (Option.any_eq_true _ _).1 hlacks
        exact ⟨table, htable, List.isEmpty_iff.1 hempty⟩
      obtain ⟨sqls, hsqls, hnames⟩ := fillDatabase_seeds forgetful 1700000000000 _ s' _ hrun
      obtain ⟨rows, -, -, hnone, -⟩ := hnames name List.mem_cons_self
      exact ⟨name, names, s', sqls, rfl, hsqls, hcolumns, hnone hcolumns⟩

end Action

end RowParity
