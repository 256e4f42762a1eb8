import RowParity.Proofs.Engine.Calls
import RowParity.Proofs.Session.Deed

/-!
# Statements handed over

Everything that a session or its introspection wants from the engine goes through the executor,
statement by statement. `Handed x link handovers link'` says that a link came to be another one by
these statements, in this order: a statement of the session follows its own query event, one of the
introspection follows none, and no other query event is ever reported. So the query events are the
statements of the session (`Handed.queries_eq`), and over an engine behind the probing executor the
statements account for every call (`Handed.calls_eq`).
-/

namespace RowParity

variable {σ α : Type} {x : Executor σ}

/-- A statement that was handed to an executor: on whose behalf, and whether it failed. -/
structure Handover where
  speaker : Speaker
  sql : String
  failed : Bool
  deriving DecidableEq, Repr

namespace Handover

def sent (handover : Handover) : Sent :=
  ⟨handover.speaker, handover.sql⟩

/-- The text of the statement, if it is one of the session itself. -/
def query? (handover : Handover) : Option String :=
  handover.sent.ofSession?

/-- What an engine behind the probing executor is called with. -/
def calls (handover : Handover) : List String :=
  Engine.callsOf handover.sql handover.failed

end Handover

inductive Handed (x : Executor σ) : Link σ → List Handover → Link σ → Prop
  | done (link : Link σ) : Handed x link [] link
  | noted {link link' : Link σ} {handovers : List Handover} (notice : Notice)
      (rest : Handed x (Link.note notice link).2 handovers link') : Handed x link handovers link'
  | reported {link link' : Link σ} {handovers : List Handover} {event : Event}
      (other : event.query? = none)
      (rest : Handed x { link with journal := link.journal.log event } handovers link') :
      Handed x link handovers link'
  | introspected {link link₁ link' : Link σ} {handovers : List Handover} {sql : String} {α : Type}
      {call : String → StateM σ (Answer α)} {reply : Except EngineError α} (entry : x.Entry call)
      (asked : Link.ask .introspection sql call link = (reply, link₁))
      (rest : Handed x link₁ handovers link') :
      Handed x link (⟨.introspection, sql, !reply.isOk⟩ :: handovers) link'
  | queried {link link₁ link' : Link σ} {handovers : List Handover} {sql : String} {α : Type}
      {call : String → StateM σ (Answer α)} {reply : Except EngineError α} (entry : x.Entry call)
      (asked : Link.ask .session sql call
        { link with journal := link.journal.log (.query sql) } = (reply, link₁))
      (rest : Handed x link₁ handovers link') :
      Handed x link (⟨.session, sql, !reply.isOk⟩ :: handovers) link'

namespace Handed

variable {link link₁ link' : Link σ} {handovers others : List Handover}

theorem append (h : Handed x link handovers link₁) (h' : Handed x link₁ others link') :
    Handed x link (handovers ++ others) link' := by
  induction h with
  | done => exact h'
  | noted notice _ ih => exact .noted notice (ih h')
  | reported other _ ih => exact .reported other (ih h')
  | introspected entry asked _ ih => exact .introspected entry asked (ih h')
  | queried entry asked _ ih => exact .queried entry asked (ih h')

theorem of_exchanged {exchanges : List Exchange} (h : Exchanged x link exchanges link') :
    ∃ handovers, Handed x link handovers link' := by
  induction h with
  | done link => exact ⟨[], .done link⟩
  | noted notice _ ih =>
    obtain ⟨handovers, hrest⟩ := ih
    exact ⟨handovers, .noted notice hrest⟩
  | fetched asked _ ih =>
    obtain ⟨handovers, hrest⟩ := ih
    exact ⟨_, .introspected .fetch asked hrest⟩
  | named asked _ ih =>
    obtain ⟨handovers, hrest⟩ := ih
    exact ⟨_, .introspected .columnNames asked hrest⟩

/-! ## What was handed over -/

/-- These are all statements that were sent. -/
theorem transcript_eq (h : Handed x link handovers link') :
    link'.transcript.toList = link.transcript.toList ++ handovers.map Handover.sent := by
  induction h with
  | done => exact (List.append_nil _).symm
  | noted _ _ ih | reported _ _ ih => exact ih
  | introspected _ asked _ ih | queried _ asked _ ih =>
    rw [ih, Link.ask_transcript asked, Array.toList_push, List.append_assoc]
    rfl

theorem statements_eq (h : Handed x link handovers link') :
    link'.statements = link.statements ++ handovers.filterMap Handover.query? := by
  rw [Link.statements, h.transcript_eq, List.filterMap_append, List.filterMap_map]
  rfl

/-- **The query events are the statements of the session.** -/
theorem queries_eq (h : Handed x link handovers link') :
    link'.journal.queries = link.journal.queries ++ handovers.filterMap Handover.query? := by
  induction h with
  | done => exact (List.append_nil _).symm
  | @noted link _ _ notice _ ih =>
    have hsame : (Link.note notice link).2.journal.events = link.journal.events :=
      Journal.events_note _ _
    rw [ih, Journal.queries, hsame, Journal.queries]
  | @reported link _ _ event other _ ih =>
    have hsame : (link.journal.log event).queries = link.journal.queries := by
      simp [Journal.queries, other]
    rw [ih, hsame]
  | introspected _ asked _ ih => rw [ih, Journal.queries, Link.ask_events asked]; rfl
  | @queried link _ _ _ sql _ _ _ _ asked _ ih =>
    have hquery : (link.journal.log (.query sql)).queries = link.journal.queries ++ [sql] := by
      simp [Journal.queries, Event.query?]
    rw [ih, Journal.queries, Link.ask_events asked, ← Journal.queries, hquery, List.append_assoc]
    rfl

/-- Over an engine behind the probing executor, these are all of its calls. -/
theorem calls_eq {engine : Engine σ} {link link' : Link (σ × List String)}
    (h : Handed engine.recorded.probing link handovers link') :
    link'.engine.2 = link.engine.2 ++ handovers.flatMap Handover.calls := by
  induction h with
  | done => exact (List.append_nil _).symm
  | noted _ _ ih | reported _ _ ih => exact ih
  | introspected entry asked _ ih | queried entry asked _ ih =>
    cases asked
    rw [ih, List.flatMap_cons, ← List.append_assoc]
    exact congrArg (· ++ _) (Engine.probing_calls entry _ _)

end Handed

end RowParity
