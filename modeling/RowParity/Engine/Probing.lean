import RowParity.Engine.Executor
import RowParity.Sql.Statement

/-!
# From engines to executors

An `Engine` is the bare interface of a database: a statement text goes in, and a reply or the text
of an error comes out. Two executors are built on it. The direct one passes statements on as they
are. The probing one sends the bare statement and, after a failure, a trivial query: if that fails
as well, the connection is gone.
-/

namespace RowParity

/-- What an engine answers to a statement that it took. -/
structure Reply where
  names : List String := []
  rows : List Row := []
  /-- The error that comes up behind the rows, in place of their end. -/
  interruption : Option String := none
  deriving Repr

namespace Reply

/-- The reply, or the error that reading it to the end ends in. -/
def readAll (reply : Reply) : Except String Reply :=
  match reply.interruption with
  | some text => .error text
  | none => .ok reply

/-- The number of columns of the result. -/
def width (reply : Reply) : Nat :=
  (reply.rows.head?.map List.length).getD reply.names.length

def cellAt (row : Row) (i : Nat) : Except String Cell :=
  match row[i]? with
  | some cell => .ok cell
  | none => .error ("Invalid column index: " ++ toString i)

/-- So many cells of a row from place `i` on, taken one by one. -/
def cellsFrom (row : Row) (i : Nat) : Nat → Except String Row
  | 0 => .ok []
  | n + 1 => do
    let cell ← cellAt row i
    let others ← cellsFrom row (i + 1) n
    return cell :: others

/-- Takes row after row, each cell by cell, up to the end or to the error that comes up there. -/
def rowsFrom (width : Nat) (interruption : Option String) : List Row → Except String (List Row)
  | [] =>
    match interruption with
    | some text => .error text
    | none => .ok []
  | row :: rows => do
    let cells ← cellsFrom row 0 width
    let others ← rowsFrom width interruption rows
    return cells :: others

/-- All rows of the reply, or the first error that comes up while they are read. -/
def fetchRows (reply : Reply) : Except String (List Row) :=
  rowsFrom reply.width reply.interruption reply.rows

end Reply

/-- A database behind a state `σ`. -/
structure Engine (σ : Type) where
  call : String → StateM σ (Except String Reply)
  isConnected : σ → Bool

namespace Engine

variable {σ α : Type}

def callAndRead (engine : Engine σ) (sql : String) : StateM σ (Except String Reply) := do
  return (← engine.call sql) >>= Reply.readAll

def probeStatement : String := "SELECT 1"

def probe (engine : Engine σ) : StateM σ Bool := do
  match ← engine.callAndRead probeStatement with
  | .ok _ => return true
  | .error _ => return false

/-- The answer of the direct executor: a failure is of the connection if that is gone. -/
def plainAnswer (engine : Engine σ) (sql : String) (read : Reply → α) :
    StateM σ (Answer α) := do
  match ← engine.callAndRead sql with
  | .ok reply => return { result := .ok (read reply) }
  | .error text =>
    let connected := engine.isConnected (← get)
    return { result := .error (if connected then .statement sql text else .connection text) }

/-- The executor that passes every statement on as it is. -/
def direct (engine : Engine σ) : Executor σ where
  execute sql := engine.plainAnswer sql fun _ => ()
  fetch sql := engine.plainAnswer sql Reply.rows
  columnNames sql := engine.plainAnswer sql Reply.names
  isAlive := do return engine.isConnected (← get)

/-- What is noted when a connection turns out to be gone. -/
def probeFailed (text : String) : Notice :=
  { level := .warn, component := .executor
    message := "Connection failed liveness probe after: " ++ text }

/-- Sorts a failure by a probe. -/
def classified (engine : Engine σ) (sql text : String) : StateM σ (Answer α) := do
  if ← engine.probe then
    return { result := .error (.statement sql text) }
  else
    return { result := .error (.connection text), notices := [probeFailed text] }

/-- The answer of the probing executor: the bare statement is sent once, and a failure of the call
or of reading its reply is sorted. -/
def probedAnswer (engine : Engine σ) (read : Reply → Except String α) (sql : String) :
    StateM σ (Answer α) := do
  let sql := Sql.bare sql
  match (← engine.call sql) >>= read with
  | .ok a => return { result := .ok a }
  | .error text => engine.classified sql text

/-- The executor that sends bare statements and probes the connection after each failure. Column
names are known before any row is read. Of its notices only the one of a failed probe is kept; those
for debugging, which repeat a statement to execute (`execute: …`) or to query (`query: …`), are left
out. -/
def probing (engine : Engine σ) : Executor σ where
  execute := engine.probedAnswer fun reply => reply.readAll.map fun _ => ()
  fetch := engine.probedAnswer Reply.fetchRows
  columnNames := engine.probedAnswer fun reply => .ok reply.names
  isAlive := engine.probe

end Engine

end RowParity
