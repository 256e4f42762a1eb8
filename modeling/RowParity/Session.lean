import RowParity.Catalog.Introspection

/-!
# Sessions

A session works on one database: it holds the link, a random source, the last schema that was read
and the counts of its checks. A `Step` changes the session and cannot fail; an `Action` may fail and
keeps what it has done up to then. The schema changes only by `Step.installSchema`, the counts only
by `Step.count`.
-/

namespace RowParity

/-- A query and its rewritten form that gave different numbers of rows. -/
structure Finding where
  baseQuery : String
  rewrittenQuery : String
  baseRows : Nat
  rewrittenRows : Nat
  basePlan : String
  rewrittenPlan : String
  deriving DecidableEq, Repr

structure Stats where
  checks : Nat := 0
  passes : Nat := 0
  expectedErrors : Nat := 0
  findings : List Finding := []
  deriving DecidableEq, Repr

/-- The state of a session over an executor with states `σ`. -/
structure Session (σ : Type) extends Link σ where
  random : Random.Source
  schema : Schema := .empty
  stats : Stats := {}

/-- A step of a session that cannot fail. -/
abbrev Step (σ : Type) := StateM (Session σ)

/-- A step of a session that may fail. What it has done up to then stays done. -/
abbrev Action (σ : Type) := EStateM RunError (Session σ)

/-- A session on a link with the random source of a seed. -/
def Session.start {σ : Type} (link : Link σ) (seed : UInt64) : Session σ :=
  { link with random := .ofSeed seed }

namespace Step

variable {σ α : Type}

def onLink (step : StateM (Link σ) α) : Step σ α := fun s =>
  let (a, link) := step s.toLink
  (a, { s with toLink := link })

def draw (d : Draw α) : Step σ α := fun s =>
  let (a, random) := d s.random
  (a, { s with random })

def schema : Step σ Schema := fun s => (s.schema, s)

def report (event : Event) : Step σ Unit := fun s =>
  ((), { s with journal := s.journal.log event })

def info (message : String) : Step σ Unit :=
  report (.info message)

/-- Reports an error that is dealt with, and the statement it came from. -/
def exception (e : RunError) (sql : Option String) : Step σ Unit :=
  report (.exception e.message sql)

def count (change : Stats → Stats) : Step σ Unit := fun s =>
  ((), { s with stats := change s.stats })

def installSchema (schema : Schema) : Step σ Unit := fun s =>
  ((), { s with schema })

/-- A step that cannot fail as one that may. -/
def toAction (step : Step σ α) : Action σ α := fun s =>
  let (a, s) := step s
  .ok a s

end Step

namespace Action

variable {σ α : Type}

def onLink (step : StateM (Link σ) α) : Action σ α := (Step.onLink step).toAction

def draw (d : Draw α) : Action σ α := (Step.draw d).toAction

def schema : Action σ Schema := Step.schema.toAction

def report (event : Event) : Action σ Unit := (Step.report event).toAction

def info (message : String) : Action σ Unit := (Step.info message).toAction

/-- Reports an error that is dealt with, and the statement it came from. -/
def exception (e : RunError) (sql : Option String) : Action σ Unit :=
  (Step.exception e sql).toAction

def installSchema (schema : Schema) : Action σ Unit := (Step.installSchema schema).toAction

/-- The step whose failure is handed on as a value. -/
def result (action : Action σ α) : Step σ (Except RunError α) := fun s =>
  match action s with
  | .ok a s => (.ok a, s)
  | .error e s => (.error e, s)

/-- Does the action and hands its failure on as a value. -/
def attempt (action : Action σ α) : Action σ (Except RunError α) := action.result.toAction

/-- The value, or the failure of the engine as a failure of the step. -/
def ofEngine : Except EngineError α → Action σ α
  | .ok a => pure a
  | .error e => throw (.engine e)

def execute (x : Executor σ) (sql : String) : Action σ Unit := do
  report (.query sql)
  ofEngine (← onLink (Link.ask .session sql x.execute))

/-- Runs a query, which is reported first, and gives its rows. -/
def fetch (x : Executor σ) (sql : String) : Action σ (List Row) := do
  report (.query sql)
  ofEngine (← onLink (Link.ask .session sql x.fetch))

/-- The names of the columns of a query. This is not reported. -/
def columnNames (x : Executor σ) (sql : String) : Action σ (List String) := do
  ofEngine (← onLink (Link.ask .session sql x.columnNames))

def isAlive (x : Executor σ) : Action σ Bool :=
  onLink (Link.onEngine x.isAlive)

/-- Reads the schema anew and makes it the current one. -/
def renewSchemaOnce (x : Executor σ) : Action σ Unit := do
  match ← onLink (Introspection.readSchema x) with
  | .error e => throw e
  | .ok schema =>
    info ("Schema refreshed, now has " ++ toString schema.size ++ " tables")
    installSchema schema

/-- The error of a second failed refresh. -/
def secondFailure (e : RunError) : RunError :=
  if e.isDisconnect then e else .schemaVisibility e.message

/-- Reads the schema anew, with a second attempt after a failure. -/
def renewSchema (x : Executor σ) : Action σ Unit := do
  match ← attempt (renewSchemaOnce x) with
  | .ok () => return ()
  | .error first =>
    exception first none
    match ← attempt (renewSchemaOnce x) with
    | .ok () => return ()
    | .error second => throw (secondFailure second)

/-- Runs a statement whose rejection is reported and passed over; the answer is whether it was
accepted. A lost connection is still a failure. -/
def tryExecute (x : Executor σ) (sql : String) : Action σ Bool := do
  match ← attempt (execute x sql) with
  | .ok () => return true
  | .error e =>
    if e.isDisconnect then throw e
    else
      exception e (some sql)
      return false

end Action

end RowParity
