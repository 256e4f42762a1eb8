import RowParity.Proofs.Workload.Absorption

/-!
# Trials

A trial is a statement whose rejection is passed over. `Action.Tries x schema law action` says that
an action consists of trials which obey a law together with its result. The trials of a run are its
course (`Course`), so how they were answered is told by the executor and not by the law. What is
left behind by trials, whatever the law, is collected in `Tried`.
-/

namespace RowParity

variable {σ α β : Type} {x : Executor σ} {schema : Schema}

/-- A statement that was tried, and the error that it met, if any. -/
structure Trial where
  sql : String
  error : Option EngineError := none
  deriving DecidableEq, Repr

namespace Trial

def deed (trial : Trial) : Deed :=
  .statement trial.sql trial.error

/-- What the trial came to: whether the statement was accepted, or a lost connection. -/
def outcome (trial : Trial) : Except RunError Bool :=
  match trial.error with
  | none => .ok true
  | some (.statement ..) => .ok false
  | some (.connection message) => .error (.engine (.connection message))

def isAccepted (trial : Trial) : Bool :=
  trial.error.isNone

/-- The statement was rejected, and the connection is well. -/
def isRejected (trial : Trial) : Bool :=
  match trial.error with
  | some (.statement ..) => true
  | _ => false

theorem isAccepted_of_outcome {trial : Trial} {accepted : Bool} (h : trial.outcome = .ok accepted) :
    trial.isAccepted = accepted ∧ trial.isRejected = !accepted := by
  unfold outcome at h
  split at h
  · next herror =>
    cases h
    rw [isAccepted, isRejected, herror]
    exact ⟨rfl, rfl⟩
  · next herror =>
    cases h
    rw [isAccepted, isRejected, herror]
    exact ⟨rfl, rfl⟩
  · cases h

end Trial

/-! ## Actions that consist of trials -/

/-- These statements were sent, in order, and neither schema nor counts changed. -/
structure Session.Sends (sqls : List String) (s s' : Session σ) : Prop where
  transcript_eq : s'.transcript.toList = s.transcript.toList ++ sqls.map (Sent.mk .session)
  schema_eq : s'.schema = s.schema
  stats_eq : s'.stats = s.stats

namespace Session.Sends

theorem refl (s : Session σ) : Sends [] s s :=
  ⟨(List.append_nil _).symm, rfl, rfl⟩

theorem of_delivered {s s' : Session σ} {sql : String} {error : Option EngineError}
    (h : Delivered x sql s error s') : Sends [sql] s s' := by
  refine h.keeps fun s link _ hsent => ⟨?_, rfl, rfl⟩
  show link.transcript.toList = _
  rw [hsent, Array.toList_push]
  rfl

theorem cons {s s₁ s' : Session σ} {sql : String} {sqls : List String} (h : Sends [sql] s s₁)
    (h' : Sends sqls s₁ s') : Sends (sql :: sqls) s s' where
  transcript_eq := by rw [h'.transcript_eq, h.transcript_eq, List.append_assoc]; rfl
  schema_eq := h'.schema_eq.trans h.schema_eq
  stats_eq := h'.stats_eq.trans h.stats_eq

theorem statements_eq {s s' : Session σ} {sqls : List String} (h : Sends sqls s s') :
    s'.statements = s.statements ++ sqls :=
  Link.statements_append h.transcript_eq

end Session.Sends

theorem Deed.not_isStatement_refresh (errors : List RunError) : ¬(refresh errors).IsStatement := by
  rintro ⟨sql, hsql⟩
  cases hsql

/-- A course of statements sends them and does nothing else. -/
theorem Course.sends {s s' : Session σ} {deeds : List Deed} {end? : Option RunError}
    (h : Course x s deeds end? s') (hstatements : ∀ deed ∈ deeds, deed.IsStatement) :
    Session.Sends (deeds.filterMap Deed.sql?) s s' := by
  have hrefresh {errors : List RunError} {others : List Deed} :
      ¬∀ deed ∈ .refresh errors :: others, deed.IsStatement := fun hall =>
    Deed.not_isStatement_refresh errors (hall _ List.mem_cons_self)
  induction h with
  | done s => exact .refl s
  | drew d _ ih =>
    have hrest := ih hstatements
    exact ⟨hrest.transcript_eq, hrest.schema_eq, hrest.stats_eq⟩
  | informed message _ ih =>
    have hrest := ih hstatements
    exact ⟨hrest.transcript_eq, hrest.schema_eq, hrest.stats_eq⟩
  | accepted sent _ ih =>
    exact (Session.Sends.of_delivered sent).cons (ih (List.forall_mem_cons.1 hstatements).2)
  | rejected sent _ ih =>
    have hrest := ih (List.forall_mem_cons.1 hstatements).2
    exact (Session.Sends.of_delivered sent).cons
      ⟨hrest.transcript_eq, hrest.schema_eq, hrest.stats_eq⟩
  | refreshed => exact absurd hstatements hrefresh
  | reread => exact absurd hstatements hrefresh
  | ended fatal =>
    cases fatal with
    | lost sent => exact .of_delivered sent
    | unreadable => exact absurd hstatements hrefresh

/-- The deeds of trials are statements, with these texts. -/
theorem Trial.filterMap_deed (trials : List Trial) :
    (trials.map deed).filterMap Deed.sql? = trials.map sql := by
  rw [List.filterMap_map, ← List.filterMap_eq_map]
  rfl

theorem Course.sends_trials {s s' : Session σ} {trials : List Trial} {end? : Option RunError}
    (h : Course x s (trials.map Trial.deed) end? s') :
    Session.Sends (trials.map Trial.sql) s s' := by
  rw [← Trial.filterMap_deed]
  refine h.sends fun deed hdeed => ?_
  obtain ⟨trial, -, rfl⟩ := List.mem_map.1 hdeed
  exact ⟨trial.sql, rfl⟩

namespace Action

/-- From a session with the schema, every run of the action is a course of trials that obey the law
together with its result. -/
def Tries (x : Executor σ) (schema : Schema) (law : List Trial → Except RunError α → Prop)
    (action : Action σ α) : Prop :=
  ∀ s, s.schema = schema → ∃ trials, law trials (action.result s).1 ∧
    Course x s (trials.map Trial.deed) (errorOf? (action.result s).1) (action.result s).2

namespace Tries

variable {law : List Trial → Except RunError α → Prop}
  {law' : List Trial → Except RunError β → Prop}

theorem pure {a : α} (h : law [] (.ok a)) : Tries x schema law (Pure.pure a : Action σ α) :=
  fun s _ => ⟨[], h, .done s⟩

/-- What follows is tried in the same schema, and only after a success. -/
theorem bind {action : Action σ α} {next : α → Action σ β} (h : Tries x schema law action)
    (hfailed : ∀ trials e, law trials (.error e) → law' trials (.error e))
    (hnext : ∀ trials a, law trials (.ok a) →
      Tries x schema (fun others result => law' (trials ++ others) result) (next a)) :
    Tries x schema law' (action >>= next) := by
  intro s hs
  obtain ⟨trials, hlaw, hcourse⟩ := h s hs
  rw [result_bind]
  rcases hrun : action.result s with ⟨e | a, s₁⟩ <;> rw [hrun] at hlaw hcourse
  · exact ⟨trials, hfailed trials e hlaw, hcourse⟩
  · have hs₁ := hcourse.sends_trials.schema_eq.trans hs
    obtain ⟨others, hlaw', hrest⟩ := hnext trials a hlaw s₁ hs₁
    refine ⟨trials ++ others, hlaw', ?_⟩
    rw [List.map_append]
    exact hcourse.append hrest

theorem imp {law₁ law₂ : List Trial → Except RunError α → Prop} {action : Action σ α}
    (h : Tries x schema law₁ action) (himp : ∀ trials result, law₁ trials result →
      law₂ trials result) : Tries x schema law₂ action := by
  intro s hs
  obtain ⟨trials, hlaw, hcourse⟩ := h s hs
  exact ⟨trials, himp trials _ hlaw, hcourse⟩

/-- What a run that succeeds comes to. -/
theorem of_ok {action : Action σ α} {s s' : Session σ} {a : α}
    (h : Tries x s.schema law action) (hrun : action s = .ok a s') :
    ∃ trials, law trials (.ok a) ∧ Course x s (trials.map Trial.deed) none s' := by
  have hs := h s rfl
  rwa [result_ok hrun] at hs

theorem draw {d : Draw α} {next : α → Action σ β}
    (h : ∀ source, Tries x schema law' (next (d source).1)) :
    Tries x schema law' (Action.draw d >>= next) := by
  intro s hs
  obtain ⟨trials, hlaw, hcourse⟩ := h s.random (Step.draw d s).2 hs
  exact ⟨trials, hlaw, .drew d hcourse⟩

theorem info (message : String) {next : Unit → Action σ β} (h : Tries x schema law' (next ())) :
    Tries x schema law' (Action.info message >>= next) := by
  intro s hs
  obtain ⟨trials, hlaw, hcourse⟩ := h (Step.info message s).2 hs
  exact ⟨trials, hlaw, .informed message hcourse⟩

theorem ofSchema {next : Schema → Action σ β} (h : Tries x schema law' (next schema)) :
    Tries x schema law' (Action.schema >>= next) := by
  intro s hs
  cases hs
  exact h s rfl

end Tries

/-! ## Statements -/

theorem tryExecute_result (x : Executor σ) (sql : String) (s : Session σ) :
    (tryExecute x sql).result s =
      match execute x sql s with
      | .ok _ s₁ => (.ok true, s₁)
      | .error e s₁ =>
        if e.isDisconnect then (.error e, s₁)
        else (.ok false, (Step.exception e (some sql) s₁).2) := by
  rw [tryExecute_eq, absorbing_result]
  cases execute x sql s <;> rfl

/-- A statement that is tried is one trial. -/
theorem tryExecute_tries (x : Executor σ) (schema : Schema) (sql : String) :
    Tries x schema (fun trials result => ∃ error, trials = [⟨sql, error⟩] ∧
      result = Trial.outcome ⟨sql, error⟩) (tryExecute x sql) := by
  intro s _
  rw [tryExecute_result]
  obtain ⟨_, s', hrun, hsent⟩ | ⟨e, s', hrun, hsent⟩ := delivers_execute (x := x) sql s <;>
    rw [hrun]
  · exact ⟨[⟨sql, none⟩], ⟨none, rfl, rfl⟩, .accepted hsent (.done s')⟩
  · refine ⟨[⟨sql, some e⟩], ⟨some e, rfl, ?_⟩, ?_⟩
    · cases e <;> rfl
    · cases e with
      | connection message => exact .ended (.lost hsent)
      | statement rejected reason => exact .rejected hsent (.done _)

theorem tryExecute_random (x : Executor σ) (sql : String) (s : Session σ) :
    ((tryExecute x sql).result s).2.random = s.random := by
  have hkeeps {error : Option EngineError} {s' : Session σ} (h : Delivered x sql s error s') :
      s'.random = s.random :=
    h.keeps (R := fun s s' => s'.random = s.random) fun _ _ _ _ => rfl
  rw [tryExecute_result]
  obtain ⟨_, s', hrun, hsent⟩ | ⟨e, s', hrun, hsent⟩ := delivers_execute (x := x) sql s <;>
    have hsame := hkeeps hsent <;> rw [hrun]
  · exact hsame
  · dsimp only
    split
    · exact hsame
    · exact hsame

theorem tryGenerated_none (x : Executor σ) {d : Draw (Option String)} {s : Session σ}
    (h : (d s.random).1 = none) : (tryGenerated x d).result s = (.ok false, (Step.draw d s).2) := by
  rw [tryGenerated, result_bind, draw_result, h]
  rfl

theorem tryGenerated_result (x : Executor σ) {d : Draw (Option String)} {s : Session σ}
    {sql : String} (h : (d s.random).1 = some sql) :
    (tryGenerated x d).result s = (tryExecute x sql).result (Step.draw d s).2 := by
  rw [tryGenerated, result_bind, draw_result, h]

/-- A statement that was drawn and is tried is one trial. -/
theorem tryGenerated_trial (x : Executor σ) {d : Draw (Option String)} {s : Session σ}
    {sql : String} (h : (d s.random).1 = some sql) :
    ∃ error, ((tryGenerated x d).result s).1 = Trial.outcome ⟨sql, error⟩ ∧
      Course x s [Trial.deed ⟨sql, error⟩] (errorOf? ((tryGenerated x d).result s).1)
        ((tryGenerated x d).result s).2 := by
  obtain ⟨_, ⟨error, rfl, houtcome⟩, hcourse⟩ :=
    tryExecute_tries x s.schema sql (Step.draw d s).2 rfl
  rw [tryGenerated_result x h]
  exact ⟨error, houtcome, .drew d hcourse⟩

end Action

/-! ## Answered trials -/

namespace Trial

/-- The connection was lost over the statement. -/
def isLost (trial : Trial) : Bool :=
  match trial.error with
  | some (.connection _) => true
  | _ => false

/-- The error event of the statement, if it was rejected. -/
def report? (trial : Trial) : Option (String × Option String) :=
  match trial.error with
  | some (.statement rejected reason) =>
    some ((EngineError.statement rejected reason).message, some trial.sql)
  | _ => none

theorem isAccepted_iff {trial : Trial} : trial.isAccepted = true ↔ trial.outcome = .ok true := by
  obtain ⟨sql, _ | _ | _⟩ := trial <;> simp [isAccepted, outcome]

theorem isRejected_iff {trial : Trial} : trial.isRejected = true ↔ trial.outcome = .ok false := by
  obtain ⟨sql, _ | _ | _⟩ := trial <;> simp [isRejected, outcome]

theorem isRejected_eq (trial : Trial) :
    trial.isRejected = (!trial.isAccepted && !trial.isLost) := by
  obtain ⟨sql, _ | _ | _⟩ := trial <;> rfl

theorem isFatal_deed_iff {trial : Trial} : trial.deed.IsFatal ↔ trial.isLost = true := by
  obtain ⟨sql, _ | message | _⟩ := trial
  · exact ⟨nofun, nofun⟩
  · exact ⟨fun _ => rfl, fun _ => .lost sql message⟩
  · exact ⟨nofun, nofun⟩

theorem isSome_report? (trial : Trial) : trial.report?.isSome = trial.isRejected := by
  obtain ⟨sql, _ | _ | _⟩ := trial <;> rfl

theorem flatMap_reports (trials : List Trial) :
    (trials.map deed).flatMap Deed.reports = trials.filterMap report? := by
  have hreports (trial : Trial) : trial.deed.reports = trial.report?.toList := by
    obtain ⟨sql, _ | _ | _⟩ := trial <;> rfl
  induction trials with
  | nil => rfl
  | cons trial trials ih =>
    rw [List.map_cons, List.flatMap_cons, ih, hreports, List.filterMap_cons]
    cases trial.report? <;> rfl

/-- A rejected trial reports itself, and no other trial reports anything. -/
theorem length_reports (trials : List Trial) :
    (trials.filterMap report?).length = trials.countP isRejected := by
  rw [List.length_filterMap_eq_countP]
  exact List.countP_congr fun trial _ => by rw [isSome_report?]

end Trial

section

variable {s s' : Session σ} {trials : List Trial} {end? : Option RunError}

/-- The error events of a course are its rejected trials, each with its own text. -/
theorem Course.errors_trials (h : Course x s (trials.map Trial.deed) end? s') :
    s'.journal.errors = s.journal.errors ++ trials.filterMap Trial.report? := by
  rw [h.adds.errors, Trial.flatMap_reports]

theorem Course.length_errors (h : Course x s (trials.map Trial.deed) end? s') :
    s'.journal.errors.length = s.journal.errors.length + trials.countP Trial.isRejected := by
  rw [h.errors_trials, List.length_append, Trial.length_reports]

/-- A course ends in an error just if the connection was lost over one of its trials. -/
theorem Course.lost_iff (h : Course x s (trials.map Trial.deed) end? s') :
    (∃ e, end? = some e) ↔ ∃ trial ∈ trials, trial.isLost = true := by
  rw [(Concluded.of_course h).isSome_iff]
  constructor
  · rintro ⟨_, hdeed, hfatal⟩
    obtain ⟨trial, htrial, rfl⟩ := List.mem_map.1 hdeed
    exact ⟨trial, htrial, Trial.isFatal_deed_iff.1 hfatal⟩
  · rintro ⟨trial, htrial, hlost⟩
    exact ⟨trial.deed, List.mem_map_of_mem htrial, Trial.isFatal_deed_iff.2 hlost⟩

/-- Nothing is tried after the connection was lost. -/
theorem Course.lost_last (h : Course x s (trials.map Trial.deed) end? s') :
    ∀ trial ∈ trials.dropLast, trial.isLost = false := by
  intro trial htrial
  have hdeed : trial.deed ∈ (trials.map Trial.deed).dropLast := by
    rw [← List.map_dropLast]
    exact List.mem_map_of_mem htrial
  rw [← Bool.not_eq_true, ← Trial.isFatal_deed_iff]
  have hconcluded := Concluded.of_course h
  generalize trials.map Trial.deed = deeds at hdeed hconcluded
  cases hconcluded with
  | passed _ harmless => exact harmless _ ((List.dropLast_sublist _).subset hdeed)
  | broken _ harmless =>
    rw [List.dropLast_concat] at hdeed
    exact harmless _ hdeed

/-- On a course that goes on every trial was accepted or rejected. -/
theorem Course.isRejected_eq (h : Course x s (trials.map Trial.deed) none s') :
    ∀ trial ∈ trials, trial.isRejected = !trial.isAccepted := by
  intro trial htrial
  cases hlost : trial.isLost with
  | false => rw [Trial.isRejected_eq, hlost, Bool.not_false, Bool.and_true]
  | true =>
    obtain ⟨e, he⟩ := h.lost_iff.2 ⟨trial, htrial, hlost⟩
    cases he

/-- What is left behind by work that consists of these trials. -/
structure Tried (x : Executor σ) (s : Session σ) (trials : List Trial) (result : Except RunError α)
    (s' : Session σ) : Prop where
  /-- The trials are those of the executor. -/
  course : Course x s (trials.map Trial.deed) (errorOf? result) s'
  sent_eq : s'.transcript.toList = s.transcript.toList ++ trials.map (⟨.session, ·.sql⟩)
  /-- Every rejected statement has one error event, with its own text. -/
  errors_eq : s'.journal.errors = s.journal.errors ++ trials.filterMap Trial.report?
  lost_iff : (∃ e, result = .error e) ↔ ∃ trial ∈ trials, trial.isLost = true
  /-- Nothing is sent after the connection was lost. -/
  lost_last : ∀ trial ∈ trials.dropLast, trial.isLost = false
  schema_eq : s'.schema = s.schema
  stats_eq : s'.stats = s.stats

theorem Tried.of_course {result : Except RunError α}
    (h : Course x s (trials.map Trial.deed) (errorOf? result) s') : Tried x s trials result s' := by
  have hsends := h.sends_trials
  refine ⟨h, ?_, h.errors_trials, ?_, h.lost_last, hsends.schema_eq, hsends.stats_eq⟩
  · rw [hsends.transcript_eq, List.map_map]
    rfl
  · rw [← h.lost_iff]
    simp only [errorOf?_eq_some]

end

end RowParity
