import RowParity.Engine.Cell
import RowParity.Error
import RowParity.Journal

/-!
# Executors and links

An executor answers statements and keeps a state of its own between them. Nothing is assumed of the
answers, so statements about the rest of the library hold for every executor. A `Link` is an
executor's state in use, together with the journal and the transcript of all statements sent.
-/

namespace RowParity

/-- What an executor gives back: a result, and the notices that came up on the way. -/
structure Answer (α : Type) where
  result : Except EngineError α
  notices : List Notice := []

structure Executor (σ : Type) where
  execute : String → StateM σ (Answer Unit)
  fetch : String → StateM σ (Answer (List Row))
  /-- The names of the columns of a query, whose rows are not read. -/
  columnNames : String → StateM σ (Answer (List String))
  isAlive : StateM σ Bool

/-- On whose behalf a statement is sent. -/
inductive Speaker where
  | session
  | introspection
  deriving DecidableEq, Repr

structure Sent where
  speaker : Speaker
  sql : String
  deriving DecidableEq, Repr

structure Link (σ : Type) where
  engine : σ
  journal : Journal := {}
  /-- The statements sent so far, oldest first. -/
  transcript : Array Sent := #[]

namespace Link

variable {σ α : Type}

/-- Sends one statement: it enters the transcript, the executor answers, and its notices enter the
journal. -/
def ask (speaker : Speaker) (sql : String) (answer : String → StateM σ (Answer α)) :
    StateM (Link σ) (Except EngineError α) := fun link =>
  let (reply, engine) := answer sql link.engine
  (reply.result,
    { engine
      journal := link.journal.noteAll reply.notices
      transcript := link.transcript.push ⟨speaker, sql⟩ })

def onEngine (step : StateM σ α) : StateM (Link σ) α := fun link =>
  let (a, engine) := step link.engine
  (a, { link with engine })

def note (notice : Notice) : StateM (Link σ) Unit :=
  modify fun link => { link with journal := link.journal.note notice }

end Link

end RowParity
