import RowParity.Session

/-!
# What the work of a session leaves alone

`Step.Keeps R` says that a step always ends in a session related by `R` to the one it started from.
`Action.Within R P` says the same of an action, whether it fails or not, and that its errors satisfy
`P`. Both are closed under sequencing, so a fact about a long piece of work follows from facts about
the few ways in which a session touches its link and its random source. A `Frame` collects these:
whatever relation survives a statement, a query, a draw and a report survives all work that is built
from them.
-/

namespace RowParity

variable {σ α β : Type} {R : Session σ → Session σ → Prop} {P Q : RunError → Prop}

/-- Every run of the step ends in a session related to the one it started from. -/
def Step.Keeps (R : Session σ → Session σ → Prop) (step : Step σ α) : Prop :=
  ∀ s, R s (step s).2

/-- Every run of the action ends in a session related to the one it started from, and every error
of it satisfies `P`. -/
def Action.Within (R : Session σ → Session σ → Prop) (P : RunError → Prop) (action : Action σ α) :
    Prop :=
  ∀ s, match action s with
    | .ok _ s' => R s s'
    | .error e s' => R s s' ∧ P e

/-- The errors that mean a lost connection. -/
def RunError.IsLoss (e : RunError) : Prop :=
  e.isDisconnect = true

/-! ## Sequencing -/

theorem Draw.bind_apply (d : Draw α) (next : α → Draw β) (source : Random.Source) :
    (d >>= next) source = next (d source).1 (d source).2 :=
  rfl

namespace Step

theorem bind_apply (step : Step σ α) (next : α → Step σ β) (s : Session σ) :
    (step >>= next) s = next (step s).1 (step s).2 :=
  rfl

theorem Keeps.pure (hR : ∀ s, R s s) (a : α) : Keeps R (Pure.pure a : Step σ α) :=
  fun s => hR s

theorem Keeps.bind (hR : ∀ a b c, R a b → R b c → R a c) {step : Step σ α}
    {next : α → Step σ β} (h : Keeps R step) (hnext : ∀ a, Keeps R (next a)) :
    Keeps R (step >>= next) :=
  fun s => hR _ _ _ (h s) (hnext (step s).1 (step s).2)

end Step

namespace Action

theorem Within.pure (hR : ∀ s, R s s) (a : α) : Within R P (Pure.pure a : Action σ α) :=
  fun s => hR s

theorem Within.throw (hR : ∀ s, R s s) {e : RunError} (he : P e) :
    Within R P (MonadExcept.throw e : Action σ α) :=
  fun s => ⟨hR s, he⟩

/-- What follows an action need only be looked at for the values that the action can give. -/
theorem Within.bindResult (hR : ∀ a b c, R a b → R b c → R a c) {action : Action σ α}
    {next : α → Action σ β} (h : Within R P action)
    (hnext : ∀ s a s', action s = .ok a s' → Within R P (next a)) :
    Within R P (action >>= next) := by
  intro s
  have hs := h s
  show match EStateM.bind action next s with
    | .ok _ s' => R s s'
    | .error e s' => R s s' ∧ P e
  unfold EStateM.bind
  cases hrun : action s with
  | error e s₁ => rw [hrun] at hs; exact hs
  | ok a s₁ =>
    rw [hrun] at hs
    have hs₁ := hnext s a s₁ hrun s₁
    dsimp only
    cases hrun₁ : next a s₁ with
    | error e s₂ => rw [hrun₁] at hs₁; exact ⟨hR _ _ _ hs hs₁.1, hs₁.2⟩
    | ok b s₂ => rw [hrun₁] at hs₁; exact hR _ _ _ hs hs₁

theorem Within.bind (hR : ∀ a b c, R a b → R b c → R a c) {action : Action σ α}
    {next : α → Action σ β} (h : Within R P action) (hnext : ∀ a, Within R P (next a)) :
    Within R P (action >>= next) :=
  h.bindResult hR fun _ a _ _ => hnext a

/-- A step that cannot fail raises nothing. -/
theorem Within.ofStep {step : Step σ α} (h : step.Keeps R) : Within R P step.toAction :=
  fun s => h s

theorem Within.result {action : Action σ α} (h : Within R P action) : action.result.Keeps R := by
  intro s
  have hs := h s
  unfold Action.result
  cases hrun : action s with
  | ok a s' => rw [hrun] at hs; exact hs
  | error e s' => rw [hrun] at hs; exact hs.1

theorem Within.of_result {action : Action σ α} (h : action.result.Keeps R) :
    action.Within R fun _ => True := by
  intro s
  have hs := h s
  unfold Action.result at hs
  cases hrun : action s with
  | ok a s' => rwa [hrun] at hs
  | error e s' =>
    rw [hrun] at hs
    exact ⟨hs, trivial⟩

theorem Within.result_error {action : Action σ α} (h : Within R P action) {s s' : Session σ}
    {e : RunError} (hrun : action.result s = (.error e, s')) : P e := by
  have hs := h s
  unfold Action.result at hrun
  cases hact : action s with
  | ok a s₁ => rw [hact] at hrun; cases hrun
  | error e₁ s₁ =>
    rw [hact] at hrun hs
    cases hrun
    exact hs.2

/-- A caught error is no error. -/
theorem Within.attempt {action : Action σ α} (h : Within R Q action) :
    Within R P (Action.attempt action) :=
  Within.ofStep h.result

theorem Within.error {action : Action σ α} (h : Within R P action) {s s' : Session σ}
    {e : RunError} (hrun : action s = .error e s') : R s s' ∧ P e := by
  have hs := h s
  rw [hrun] at hs
  exact hs

theorem result_ok {action : Action σ α} {s s' : Session σ} {a : α} (h : action s = .ok a s') :
    action.result s = (.ok a, s') := by
  rw [result, h]

theorem result_error {action : Action σ α} {s s' : Session σ} {e : RunError}
    (h : action s = .error e s') : action.result s = (.error e, s') := by
  rw [result, h]

/-- A run whose result passes a test that no error passes has succeeded. -/
theorem exists_ok_of_result {action : Action σ α} {s : Session σ}
    (test : Except RunError α × Session σ → Bool) (hfailed : ∀ e s', test (.error e, s') = false)
    (h : test (action.result s) = true) :
    ∃ a s', action s = .ok a s' ∧ test (.ok a, s') = true := by
  cases hrun : action s with
  | ok a s' =>
    rw [result_ok hrun] at h
    exact ⟨a, s', rfl, h⟩
  | error e s' =>
    rw [result_error hrun, hfailed] at h
    cases h

theorem result_bind (action : Action σ α) (next : α → Action σ β) (s : Session σ) :
    (action >>= next).result s =
      match action.result s with
      | (.ok a, s₁) => (next a).result s₁
      | (.error e, s₁) => (.error e, s₁) := by
  have hbind : (action >>= next) s = EStateM.bind action next s := rfl
  unfold result
  rw [hbind, EStateM.bind]
  rcases action s with ⟨a, s₁⟩ | ⟨e, s₁⟩ <;> rfl

theorem result_bind_pure (action : Action σ α) (f : α → β) (s : Session σ) :
    (action >>= fun a => pure (f a)).result s =
      ((action.result s).1.map f, (action.result s).2) := by
  rw [result_bind]
  rcases action.result s with ⟨e | a, s'⟩
  · rfl
  · rfl

theorem draw_result (d : Draw α) (s : Session σ) :
    (draw d).result s = (.ok (d s.random).1, (Step.draw d s).2) :=
  rfl

theorem onLink_ok {step : StateM (Link σ) α} {s s' : Session σ} {a : α}
    (h : onLink step s = .ok a s') : step s.toLink = (a, s'.toLink) := by
  cases h
  rfl

/-- An error handed on as a value is an error of the action. -/
theorem attempt_error {action : Action σ α} {s s' : Session σ} {e : RunError}
    (h : attempt action s = .ok (.error e) s') : action s = .error e s' := by
  unfold attempt Step.toAction result at h
  cases hrun : action s with
  | ok a s₁ => simp [hrun] at h
  | error e₁ s₁ =>
    simp only [hrun, EStateM.Result.ok.injEq, Except.error.injEq] at h
    rw [h.1, h.2]

end Action

/-! ## Frames -/

/-- A relation between sessions that no statement, query, draw or report leaves. A query event is
reported by the statement it belongs to. -/
structure Frame (x : Executor σ) (R : Session σ → Session σ → Prop) : Prop where
  refl : ∀ s, R s s
  trans : ∀ a b c, R a b → R b c → R a c
  execute : ∀ sql, (Action.execute x sql).result.Keeps R
  fetch : ∀ sql, (Action.fetch x sql).result.Keeps R
  draw : ∀ {α : Type} (d : Draw α), (Step.draw d).Keeps R
  report : ∀ event : Event, event.query? = none → (Step.report event).Keeps R

namespace Frame

variable {x : Executor σ} (frame : Frame x R)

include frame

theorem pure (a : α) : Action.Within R P (Pure.pure a : Action σ α) :=
  .pure frame.refl a

theorem throw {e : RunError} (he : P e) :
    Action.Within R P (MonadExcept.throw e : Action σ α) :=
  .throw frame.refl he

theorem bind {action : Action σ α} {next : α → Action σ β} (h : action.Within R P)
    (hnext : ∀ a, (next a).Within R P) : (action >>= next).Within R P :=
  .bind frame.trans h hnext

theorem drawn (d : Draw α) : (Action.draw d).Within R P :=
  .ofStep (frame.draw d)

theorem schema : (Action.schema : Action σ Schema).Within R P :=
  .ofStep fun s => frame.refl s

theorem info (message : String) : (Action.info message).Within R P :=
  .ofStep (frame.report (.info message) rfl)

theorem exception (e : RunError) (sql : Option String) : (Action.exception e sql).Within R P :=
  .ofStep (frame.report (.exception e.message sql) rfl)

theorem attemptExecute (sql : String) :
    (Action.attempt (Action.execute x sql)).Within R P :=
  .ofStep (frame.execute sql)

theorem attemptFetch (sql : String) :
    (Action.attempt (Action.fetch x sql)).Within R P :=
  .ofStep (frame.fetch sql)

/-- A tried statement raises nothing but a lost connection. -/
theorem tryExecute (sql : String) : (Action.tryExecute x sql).Within R RunError.IsLoss := by
  unfold Action.tryExecute
  refine frame.bind (frame.attemptExecute sql) fun answer => ?_
  cases answer with
  | ok _ => exact frame.pure true
  | error e =>
    dsimp only
    split
    · next hlost => exact frame.throw hlost
    · exact frame.bind (frame.exception e (some sql)) fun _ => frame.pure false

end Frame

/-! ## Statements -/

theorem Link.bind_apply (step : StateM (Link σ) α) (next : α → StateM (Link σ) β) (link : Link σ) :
    (step >>= next) link = next (step link).1 (step link).2 :=
  rfl

theorem Link.ask_eq (speaker : Speaker) (sql : String) (answer : String → StateM σ (Answer α))
    (link : Link σ) :
    Link.ask speaker sql answer link =
      ((answer sql link.engine).1.result,
        { engine := (answer sql link.engine).2
          journal := link.journal.noteAll (answer sql link.engine).1.notices
          transcript := link.transcript.push ⟨speaker, sql⟩ }) :=
  rfl

namespace Action

/-- The action hands one statement over: it is reported and enters the transcript, only the link
changes, and an error is one of the engine. -/
def Sends (sql : String) (action : Action σ α) : Prop :=
  ∀ s, ∃ link : Link σ, link.journal.events = s.journal.events ++ [.query sql] ∧
    link.transcript = s.transcript.push ⟨.session, sql⟩ ∧
    ((∃ a, action s = .ok a { s with toLink := link }) ∨
      ∃ e, action s = .error (.engine e) { s with toLink := link })

/-- Reports the query and then asks the executor. -/
def asked (sql : String) (answer : String → StateM σ (Answer α)) :
    StateM (Link σ) (Except EngineError α) := fun link =>
  Link.ask .session sql answer { link with journal := link.journal.log (.query sql) }

theorem asked_apply (sql : String) (answer : String → StateM σ (Answer α)) (s : Session σ) :
    (do report (.query sql); ofEngine (← onLink (Link.ask .session sql answer))) s =
      (ofEngine (asked sql answer s.toLink).1 : Action σ α)
        { s with toLink := (asked sql answer s.toLink).2 } :=
  rfl

/-- A statement of the session does not touch anything but the link. -/
theorem asked_result (sql : String) (answer : String → StateM σ (Answer α)) (s : Session σ) :
    Action.result (do report (.query sql); ofEngine (← onLink (Link.ask .session sql answer))) s =
      ((asked sql answer s.toLink).1.mapError RunError.engine,
        { s with toLink := (asked sql answer s.toLink).2 }) := by
  rw [result, asked_apply]
  cases (asked sql answer s.toLink).1 <;> rfl

theorem execute_result (x : Executor σ) (sql : String) (s : Session σ) :
    (execute x sql).result s =
      ((asked sql x.execute s.toLink).1.mapError RunError.engine,
        { s with toLink := (asked sql x.execute s.toLink).2 }) :=
  asked_result sql x.execute s

theorem fetch_result (x : Executor σ) (sql : String) (s : Session σ) :
    (fetch x sql).result s =
      ((asked sql x.fetch s.toLink).1.mapError RunError.engine,
        { s with toLink := (asked sql x.fetch s.toLink).2 }) :=
  asked_result sql x.fetch s

theorem sends_asked (sql : String) (answer : String → StateM σ (Answer α)) :
    Sends sql (do report (.query sql); ofEngine (← onLink (Link.ask .session sql answer))) := by
  intro s
  refine ⟨(asked sql answer s.toLink).2, ?_, rfl, ?_⟩
  · simp [asked, Link.ask_eq]
  · rw [asked_apply]
    cases (asked sql answer s.toLink).1 with
    | ok a => exact .inl ⟨a, rfl⟩
    | error e => exact .inr ⟨e, rfl⟩

theorem sends_execute (x : Executor σ) (sql : String) : Sends sql (execute x sql) :=
  sends_asked sql x.execute

theorem sends_fetch (x : Executor σ) (sql : String) : Sends sql (fetch x sql) :=
  sends_asked sql x.fetch

/-- A relation is kept by a statement if it is kept by every change of the link that adds the query
event and the statement. -/
theorem Sends.keeps {action : Action σ α} {sql : String} (h : Sends sql action)
    (hR : ∀ (s : Session σ) (link : Link σ),
      link.journal.events = s.journal.events ++ [.query sql] →
      link.transcript = s.transcript.push ⟨.session, sql⟩ → R s { s with toLink := link }) :
    action.result.Keeps R := by
  intro s
  obtain ⟨link, hevents, hsent, ⟨a, hrun⟩ | ⟨e, hrun⟩⟩ := h s <;>
    simpa only [Action.result, hrun] using hR s link hevents hsent

end Action

/-! ## Three frames -/

/-- The schema is the same. -/
def Session.SameSchema (s s' : Session σ) : Prop :=
  s'.schema = s.schema

/-- The counts are the same. -/
def Session.SameStats (s s' : Session σ) : Prop :=
  s'.stats = s.stats

theorem Session.sameSchema_frame (x : Executor σ) : Frame x (@Session.SameSchema σ) where
  refl _ := rfl
  trans _ _ _ h h' := h'.trans h
  execute sql := (Action.sends_execute x sql).keeps fun _ _ _ _ => rfl
  fetch sql := (Action.sends_fetch x sql).keeps fun _ _ _ _ => rfl
  draw _ _ := rfl
  report _ _ _ := rfl

theorem Session.sameStats_frame (x : Executor σ) : Frame x (@Session.SameStats σ) where
  refl _ := rfl
  trans _ _ _ h h' := h'.trans h
  execute sql := (Action.sends_execute x sql).keeps fun _ _ _ _ => rfl
  fetch sql := (Action.sends_fetch x sql).keeps fun _ _ _ _ => rfl
  draw _ _ := rfl
  report _ _ _ := rfl

end RowParity
