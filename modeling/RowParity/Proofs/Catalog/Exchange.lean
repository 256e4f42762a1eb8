import RowParity.Catalog.Introspection
import RowParity.Proofs.Session.Frame

/-!
# Exchanges

An exchange is a statement of the introspection with the answer that it got. `Exchanged x` relates
two links of which the second was reached from the first by the given exchanges, in this order, and
by nothing else but notes in the journal. `Link.Follows x` says of a piece of work that its
exchanges and its value together obey a law, whatever the executor answers; such facts are put
together as the work is.
-/

namespace RowParity

variable {σ α β : Type} {x : Executor σ}

inductive Exchange where
  /-- A query whose rows were asked for. -/
  | fetched (sql : String) (reply : Except EngineError (List Row))
  /-- A query of which only the names of its columns were asked for. -/
  | named (sql : String) (reply : Except EngineError (List String))

namespace Exchange

def sql : Exchange → String
  | fetched sql _ | named sql _ => sql

def error? : Exchange → Option EngineError
  | fetched _ (.error e) | named _ (.error e) => some e
  | fetched _ (.ok _) | named _ (.ok _) => none

/-- The statement was not answered, for whatever reason. -/
def IsRejected (exchange : Exchange) : Prop :=
  ∃ e, exchange.error? = some e

/-- The statement failed because the connection was gone. -/
def IsLost (exchange : Exchange) : Prop :=
  ∃ e, exchange.error? = some e ∧ e.isDisconnect = true

/-- The executor answers like this if its state is the given one. -/
def IsAnswerOf (x : Executor σ) (engine : σ) : Exchange → Prop
  | fetched sql reply => (x.fetch sql engine).1.result = reply
  | named sql reply => (x.columnNames sql engine).1.result = reply

end Exchange

/-! ## Links -/

theorem Link.ask_transcript {speaker : Speaker} {sql : String}
    {answer : String → StateM σ (Answer α)} {link link₁ : Link σ} {reply : Except EngineError α}
    (h : Link.ask speaker sql answer link = (reply, link₁)) :
    link₁.transcript = link.transcript.push ⟨speaker, sql⟩ := by
  cases h
  rfl

theorem Link.ask_events {speaker : Speaker} {sql : String}
    {answer : String → StateM σ (Answer α)} {link link₁ : Link σ} {reply : Except EngineError α}
    (h : Link.ask speaker sql answer link = (reply, link₁)) :
    link₁.journal.events = link.journal.events := by
  cases h
  exact Journal.events_noteAll _ _

theorem Link.ask_engine {speaker : Speaker} {sql : String}
    {answer : String → StateM σ (Answer α)} {link link₁ : Link σ} {reply : Except EngineError α}
    (h : Link.ask speaker sql answer link = (reply, link₁)) :
    link₁.engine = (answer sql link.engine).2 := by
  cases h
  rfl

/-- The second link was reached from the first one by these exchanges. -/
inductive Exchanged (x : Executor σ) : Link σ → List Exchange → Link σ → Prop
  | done (link : Link σ) : Exchanged x link [] link
  | noted {link link' : Link σ} {exchanges : List Exchange} (notice : Notice)
      (rest : Exchanged x (Link.note notice link).2 exchanges link') :
      Exchanged x link exchanges link'
  | fetched {link link₁ link' : Link σ} {sql : String} {reply : Except EngineError (List Row)}
      {exchanges : List Exchange}
      (asked : Link.ask .introspection sql x.fetch link = (reply, link₁))
      (rest : Exchanged x link₁ exchanges link') :
      Exchanged x link (.fetched sql reply :: exchanges) link'
  | named {link link₁ link' : Link σ} {sql : String} {reply : Except EngineError (List String)}
      {exchanges : List Exchange}
      (asked : Link.ask .introspection sql x.columnNames link = (reply, link₁))
      (rest : Exchanged x link₁ exchanges link') :
      Exchanged x link (.named sql reply :: exchanges) link'

namespace Exchanged

theorem append {link link₁ link₂ : Link σ} {exchanges exchanges' : List Exchange}
    (h : Exchanged x link exchanges link₁) (h' : Exchanged x link₁ exchanges' link₂) :
    Exchanged x link (exchanges ++ exchanges') link₂ := by
  induction h with
  | done => exact h'
  | noted notice _ ih => exact .noted notice (ih h')
  | fetched asked _ ih => exact .fetched asked (ih h')
  | named asked _ ih => exact .named asked (ih h')

/-- The exchanges are all that was sent. -/
theorem transcript_eq {link link' : Link σ} {exchanges : List Exchange}
    (h : Exchanged x link exchanges link') :
    link'.transcript.toList =
      link.transcript.toList ++ exchanges.map fun e => ⟨.introspection, e.sql⟩ := by
  induction h with
  | done => exact (List.append_nil _).symm
  | noted notice _ ih => exact ih
  | fetched asked _ ih =>
    rw [ih, Link.ask_transcript asked, Array.toList_push, List.append_assoc]
    rfl
  | named asked _ ih =>
    rw [ih, Link.ask_transcript asked, Array.toList_push, List.append_assoc]
    rfl

/-- Exchanges are no events. -/
theorem events_eq {link link' : Link σ} {exchanges : List Exchange}
    (h : Exchanged x link exchanges link') : link'.journal.events = link.journal.events := by
  induction h with
  | done => rfl
  | noted notice _ ih => exact ih.trans (Journal.events_note _ notice)
  | fetched asked _ ih => rw [ih, Link.ask_events asked]
  | named asked _ ih => rw [ih, Link.ask_events asked]

/-- Every exchange holds an answer of the executor. -/
theorem isAnswerOf {link link' : Link σ} {exchanges : List Exchange}
    (h : Exchanged x link exchanges link') :
    ∀ exchange ∈ exchanges, ∃ engine, exchange.IsAnswerOf x engine := by
  induction h with
  | done => exact List.forall_mem_nil _
  | noted _ _ ih => exact ih
  | @fetched link _ _ _ _ _ asked _ ih =>
    exact List.forall_mem_cons.2 ⟨⟨link.engine, congrArg Prod.fst asked⟩, ih⟩
  | @named link _ _ _ _ _ asked _ ih =>
    exact List.forall_mem_cons.2 ⟨⟨link.engine, congrArg Prod.fst asked⟩, ih⟩

end Exchanged

/-! ## Work on a link -/

namespace Link

/-- Every run of the work consists of exchanges that obey the law together with its value. -/
def Follows (x : Executor σ) (law : List Exchange → α → Prop) (work : StateM (Link σ) α) : Prop :=
  ∀ link, ∃ exchanges, Exchanged x link exchanges (work link).2 ∧ law exchanges (work link).1

namespace Follows

variable {law : List Exchange → α → Prop} {law' : List Exchange → β → Prop}

theorem pure {a : α} (h : law [] a) : Follows x law (Pure.pure a : StateM (Link σ) α) :=
  fun link => ⟨[], .done link, h⟩

theorem bind {work : StateM (Link σ) α} {next : α → StateM (Link σ) β} (h : Follows x law work)
    (hnext : ∀ exchanges a, law exchanges a →
      Follows x (fun others b => law' (exchanges ++ others) b) (next a)) :
    Follows x law' (work >>= next) := by
  intro link
  obtain ⟨exchanges, hexchanged, hlaw⟩ := h link
  obtain ⟨others, hothers, hlaw'⟩ := hnext exchanges _ hlaw (work link).2
  exact ⟨exchanges ++ others, hexchanged.append hothers, hlaw'⟩

theorem imp {law₁ law₂ : List Exchange → α → Prop} {work : StateM (Link σ) α}
    (h : Follows x law₁ work) (himp : ∀ exchanges a, law₁ exchanges a → law₂ exchanges a) :
    Follows x law₂ work := by
  intro link
  obtain ⟨exchanges, hexchanged, hlaw⟩ := h link
  exact ⟨exchanges, hexchanged, himp exchanges _ hlaw⟩

theorem fetch (sql : String) :
    Follows x (fun exchanges reply => exchanges = [.fetched sql reply])
      (Link.ask .introspection sql x.fetch) :=
  fun _ => ⟨_, .fetched rfl (.done _), rfl⟩

theorem columnNames (sql : String) :
    Follows x (fun exchanges reply => exchanges = [.named sql reply])
      (Link.ask .introspection sql x.columnNames) :=
  fun _ => ⟨_, .named rfl (.done _), rfl⟩

/-- A note is no exchange. -/
theorem note {notice : Notice} {next : Unit → StateM (Link σ) β} (h : Follows x law' (next ())) :
    Follows x law' (Link.note notice >>= next) := by
  intro link
  obtain ⟨exchanges, hexchanged, hlaw⟩ := h (Link.note notice link).2
  exact ⟨exchanges, .noted notice hexchanged, hlaw⟩

end Follows

end Link

end RowParity
