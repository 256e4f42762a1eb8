import RowParity.Proofs.Workload.Absorption

/-!
# Attempts to refresh

A refresh reads the schema once, and a second time if the first attempt failed. `Attempt.IsMade`
says that an attempt is one run of the introspection over a link, and `Attempted` that attempts
follow one another with nothing but reports between them. `Renewal` collects what a refresh leaves
behind: the schema of the attempt that succeeded, or else the session as it was before, apart from
the link.
-/

namespace RowParity

variable {σ : Type} {x : Executor σ}

/-- An attempt to read the schema: what was asked and answered, and what came of it. -/
structure Attempt where
  exchanges : List Exchange
  result : Except RunError Schema

namespace Attempt

def IsFailed (attempt : Attempt) : Prop :=
  ∃ e, attempt.result = .error e

/-- The event that reports a failure of the attempt. -/
def failureEvents (attempt : Attempt) : List Event :=
  match attempt.result with
  | .ok _ => []
  | .error e => [.exception e.message none]

/-- The event that reports a success of the attempt, with the number of tables read. -/
def successEvents (attempt : Attempt) : List Event :=
  match attempt.result with
  | .ok schema => [.info ("Schema refreshed, now has " ++ toString schema.size ++ " tables")]
  | .error _ => []

def sent (attempt : Attempt) : List Sent :=
  attempt.exchanges.map fun exchange => ⟨.introspection, exchange.sql⟩

/-- The attempt is a run of the introspection from the one link to the other. -/
structure IsMade (x : Executor σ) (attempt : Attempt) (link link' : Link σ) : Prop where
  read : Introspection.readSchema x link = (attempt.result, link')
  exchanged : Exchanged x link attempt.exchanges link'
  lawful : Introspection.SchemaRead attempt.exchanges attempt.result

theorem exists_isMade (x : Executor σ) (link : Link σ) :
    ∃ attempt link', IsMade x attempt link link' := by
  obtain ⟨exchanges, hexchanged, hlawful⟩ := Introspection.readSchema_follows x link
  exact ⟨⟨exchanges, _⟩, _, rfl, hexchanged, hlawful⟩

namespace IsMade

variable {attempt : Attempt} {link link' : Link σ}

theorem transcript_eq (h : attempt.IsMade x link link') :
    link'.transcript.toList = link.transcript.toList ++ attempt.sent :=
  h.exchanged.transcript_eq

/-- The introspection itself reports no event. -/
theorem events_eq (h : attempt.IsMade x link link') :
    link'.journal.events = link.journal.events :=
  h.exchanged.events_eq

/-- A failure of an attempt is a lost connection, as no listing of the tables was answered. -/
theorem isDisconnect {e : RunError} (h : attempt.IsMade x link link')
    (he : attempt.result = .error e) : e.isDisconnect = true := by
  have hread := h.read
  rw [he] at hread
  obtain ⟨reason, rfl⟩ := Introspection.readSchema_error hread
  rfl

theorem renewSchemaOnce_ok {s : Session σ} {schema : Schema} (h : attempt.IsMade x s.toLink link)
    (hschema : attempt.result = .ok schema) :
    Action.renewSchemaOnce x s = .ok ()
      { s with
        toLink := { link with
          journal := link.journal.log
            (.info ("Schema refreshed, now has " ++ toString schema.size ++ " tables")) }
        schema } := by
  rw [Action.renewSchemaOnce_eq, h.read, hschema]

theorem renewSchemaOnce_error {s : Session σ} {e : RunError} (h : attempt.IsMade x s.toLink link)
    (he : attempt.result = .error e) :
    Action.renewSchemaOnce x s = .error e { s with toLink := link } := by
  rw [Action.renewSchemaOnce_eq, h.read, he]

end IsMade

end Attempt

/-- From the one link to the other these attempts were made, one after the other. Between them and
after them events were reported, but nothing was sent. -/
inductive Attempted (x : Executor σ) : Link σ → List Attempt → Link σ → Prop
  | done (link : Link σ) : Attempted x link [] link
  | reported {link link' : Link σ} {attempts : List Attempt} (event : Event)
      (rest : Attempted x { link with journal := link.journal.log event } attempts link') :
      Attempted x link attempts link'
  | tried {link link₁ link' : Link σ} {attempt : Attempt} {attempts : List Attempt}
      (made : attempt.IsMade x link link₁) (rest : Attempted x link₁ attempts link') :
      Attempted x link (attempt :: attempts) link'

/-! ## What a refresh comes to -/

/-- A refresh made the first attempt and perhaps a second one, came to the result and left the
session as `s'`. -/
structure Renewal (x : Executor σ) (s : Session σ) (first : Attempt) (second? : Option Attempt)
    (result : Except RunError Unit) (s' : Session σ) : Prop where
  attempted : Attempted x s.toLink (first :: second?.toList) s'.toLink
  /-- There is a second attempt exactly after a failure of the first one. -/
  again_iff : second?.isSome = true ↔ first.IsFailed
  /-- The schema that the last attempt has read is installed. -/
  installed : ∀ schema, (second?.getD first).result = .ok schema →
    result = .ok () ∧ s'.schema = schema
  /-- If the last attempt failed as well, its error is that of the refresh, and the schema is the
  one from before. -/
  kept : ∀ e, (second?.getD first).result = .error e → result = .error e ∧ s'.schema = s.schema
  stats_eq : s'.stats = s.stats
  random_eq : s'.random = s.random
  /-- Only the first failure is reported, and the success. -/
  events_eq : s'.journal.events =
    s.journal.events ++ first.failureEvents ++ (second?.getD first).successEvents
  sent_eq : s'.transcript.toList =
    s.transcript.toList ++ (first :: second?.toList).flatMap Attempt.sent
  /-- The error kept for a schema out of sight never comes up. -/
  lost : ∀ e, result = .error e → e.isDisconnect = true ∧ ∀ message, e ≠ .schemaVisibility message

theorem Attempt.not_isFailed_of_ok {attempt : Attempt} {schema : Schema}
    (h : attempt.result = .ok schema) : ¬attempt.IsFailed := by
  rintro ⟨e, he⟩
  rw [h] at he
  cases he

theorem RunError.ne_schemaVisibility {e : RunError} (h : e.isDisconnect = true)
    (message : String) : e ≠ .schemaVisibility message := by
  rintro rfl
  cases h

namespace Action

variable {s : Session σ} {first second : Attempt} {link₁ link₂ : Link σ}

/-- The session as an attempt that failed at first has left it. -/
def afterFailure (s : Session σ) (link : Link σ) (e : RunError) : Session σ :=
  { s with toLink := { link with journal := link.journal.log (.exception e.message none) } }

theorem renewal_first {schema : Schema} (hfirst : first.IsMade x s.toLink link₁)
    (hok : first.result = .ok schema) :
    Renewal x s first none ((renewSchema x).result s).1 ((renewSchema x).result s).2 := by
  have hevents := hfirst.events_eq
  have hsent := hfirst.transcript_eq
  rw [renewSchema_result, hfirst.renewSchemaOnce_ok hok]
  refine ⟨.tried hfirst (.reported _ (.done _)), ?_, ?_, ?_, rfl, rfl, ?_, ?_, ?_⟩
  · simp [Attempt.not_isFailed_of_ok hok]
  · intro schema' hschema
    cases hok.symm.trans hschema
    exact ⟨rfl, rfl⟩
  · intro e he
    cases hok.symm.trans he
  · simp [Attempt.failureEvents, Attempt.successEvents, hok, hevents]
  · simpa using hsent
  · intro e he
    cases he

theorem renewSchema_second {e : RunError} (hfirst : first.IsMade x s.toLink link₁)
    (he : first.result = .error e) :
    (renewSchema x).result s =
      match renewSchemaOnce x (afterFailure s link₁ e) with
      | .ok () s₂ => (.ok (), s₂)
      | .error second s₂ => (.error (secondFailure second), s₂) := by
  rw [renewSchema_result, hfirst.renewSchemaOnce_error he]
  rfl

theorem renewal_second {e : RunError} (hfirst : first.IsMade x s.toLink link₁)
    (he : first.result = .error e)
    (hsecond : second.IsMade x (afterFailure s link₁ e).toLink link₂) :
    Renewal x s first (some second) ((renewSchema x).result s).1 ((renewSchema x).result s).2 := by
  have hagain : (some second).isSome = true ↔ first.IsFailed := by simp [Attempt.IsFailed, he]
  -- Both attempts leave the events alone, and the first failure is reported between them.
  have hevents : link₂.journal.events = s.journal.events ++ first.failureEvents := by
    have hreport : (afterFailure s link₁ e).journal.events =
        link₁.journal.events ++ [.exception e.message none] := Journal.events_log _ _
    rw [hsecond.events_eq, hreport, hfirst.events_eq, Attempt.failureEvents, he]
  have hsent : link₂.transcript.toList =
      s.transcript.toList ++ [first, second].flatMap Attempt.sent := by
    have hsame : (afterFailure s link₁ e).transcript = link₁.transcript := rfl
    rw [hsecond.transcript_eq, hsame, hfirst.transcript_eq]
    simp
  rw [renewSchema_second hfirst he]
  cases hresult : second.result with
  | ok schema =>
    rw [hsecond.renewSchemaOnce_ok hresult]
    refine ⟨.tried hfirst (.reported _ (.tried hsecond (.reported _ (.done _)))), hagain, ?_, ?_,
      rfl, rfl, ?_, hsent, ?_⟩
    · intro schema' hschema
      cases hresult.symm.trans hschema
      exact ⟨rfl, rfl⟩
    · intro e' he'
      cases hresult.symm.trans he'
    · simp [Attempt.successEvents, hresult, hevents]
    · intro e' he'
      cases he'
  | error e₂ =>
    have hlost : e₂.isDisconnect = true := hsecond.isDisconnect hresult
    have hfailure : secondFailure e₂ = e₂ := by rw [secondFailure, if_pos hlost]
    rw [hsecond.renewSchemaOnce_error hresult]
    dsimp only
    rw [hfailure]
    refine ⟨.tried hfirst (.reported _ (.tried hsecond (.done _))), hagain, ?_, ?_, rfl, rfl, ?_,
      hsent, ?_⟩
    · intro schema hschema
      cases hresult.symm.trans hschema
    · intro e' he'
      cases hresult.symm.trans he'
      exact ⟨rfl, rfl⟩
    · simp [Attempt.successEvents, hresult, hevents]
    · intro e' he'
      cases he'
      exact ⟨hlost, RunError.ne_schemaVisibility hlost⟩

/-- **A refresh is atomic.** Whatever the executor answers, at most two attempts are made, the
second only after a failure of the first; the schema of the one that succeeded is installed, and if
none did, the session is left as it was. -/
theorem renewSchema_atomic (x : Executor σ) (s : Session σ) :
    ∃ first second?,
      Renewal x s first second? ((renewSchema x).result s).1 ((renewSchema x).result s).2 := by
  obtain ⟨first, link₁, hfirst⟩ := Attempt.exists_isMade x s.toLink
  cases hresult : first.result with
  | ok schema => exact ⟨first, none, renewal_first hfirst hresult⟩
  | error e =>
    obtain ⟨second, link₂, hsecond⟩ :=
      Attempt.exists_isMade x (afterFailure s link₁ e).toLink
    exact ⟨first, some second, renewal_second hfirst hresult hsecond⟩

end Action

end RowParity
