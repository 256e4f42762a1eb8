import RowParity.Check.Oracle
import RowParity.Report
import RowParity.Workload.Mutation
import RowParity.Workload.Filling

/-!
# Campaigns

A campaign works through a number of databases. For each it takes a connection, fills the database
and runs rounds of one possible mutation and one check. Each database has a seed of its own, drawn
from the seed of the campaign. Before every database and every round the budget is looked at. A
failed check ends the work on its database; a lost connection ends the campaign.
-/

namespace RowParity

structure Plan where
  databases : Nat
  rounds : Nat
  /-- The time for the whole campaign, in seconds. -/
  timeoutSeconds : Option Nat := none
  oracles : List OracleKind := []
  /-- The chance of a mutation before each check. -/
  mutationProbability : Number.Double
  /-- Whether empty tables are given rows in any case. -/
  requireRows : Bool := false
  deriving Repr

def Plan.needsRows (plan : Plan) : Bool :=
  plan.requireRows || plan.oracles.any OracleKind.requiresRows

/-- The surroundings of a campaign. -/
structure Host (σ : Type) where
  executor : Executor σ
  /-- Takes a connection for the next database, or says why none came free. -/
  checkout : StateM σ (Except (Option String) Unit)
  /-- Whether the campaign was asked to stop by now. A request can come in between any two looks. -/
  stopRequested : StateM σ Bool
  /-- A clock for spans of time, in milliseconds. -/
  clock : StateM σ Nat
  wallClock : StateM σ Moment

namespace Campaign

variable {σ α : Type}

def notice (level : Level) (message : String) : Notice :=
  { level, component := .campaign, message }

/-- Whether the budget is used up: the campaign was asked to stop, or the deadline has come. -/
def budgetSpent (host : Host σ) (deadline : Option Nat) : StateM (Link σ) Bool := do
  if ← Link.onEngine host.stopRequested then return true
  else
    match deadline with
    | none => return false
    | some moment => return moment ≤ (← Link.onEngine host.clock)

/-- Prepares a database: reads the schema, fills the database and, if need be, gives rows to empty
tables. -/
def prepare (host : Host σ) (plan : Plan) : Action σ Unit := do
  Action.renewSchema host.executor
  let millis ← Action.onLink (Link.onEngine host.wallClock)
  let _ ← Action.fillDatabase host.executor millis
  if plan.needsRows then
    let _ ← Action.topUp host.executor

def maybeMutate (host : Host σ) (plan : Plan) : Action σ Unit := do
  if ← Action.draw (Random.chance plan.mutationProbability) then
    let _ ← Action.updateRows host.executor

/-- One round: a mutation by chance, and a check if that did not fail. -/
def round (host : Host σ) (plan : Plan) (panel : Panel) :
    Step σ (Except RunError Unit × Panel) := do
  match ← (maybeMutate host plan).result with
  | .error e => return (.error e, panel)
  | .ok () => (Panel.oracle host.executor).check panel

/-- That many rounds, as long as the budget lasts and nothing fails. -/
def rounds (host : Host σ) (plan : Plan) (deadline : Option Nat) :
    Nat → Panel → Step σ (Except RunError Unit × Panel)
  | 0, panel => return (.ok (), panel)
  | n + 1, panel => do
    if ← Step.onLink (budgetSpent host deadline) then return (.ok (), panel)
    else
      let (result, panel) ← round host plan panel
      match result with
      | .error e => return (.error e, panel)
      | .ok () => rounds host plan deadline n panel

def workDatabase (host : Host σ) (plan : Plan) (deadline : Option Nat) :
    Step σ (Except RunError Unit × Panel) := do
  let panel := Panel.ofKinds plan.oracles
  match ← (prepare host plan).result with
  | .error e => return (.error e, panel)
  | .ok () => rounds host plan deadline plan.rounds panel

/-- A step in a fresh session with the seed, and the counts that the session ends with. -/
def inSession (seed : UInt64) (step : Step σ α) : StateM (Link σ) (α × Stats) := fun link =>
  let (a, session) := step (Session.start link seed)
  ((a, session.stats), session.toLink)

/-- Adds the work on a database to the report. A lost connection is an error. -/
def conclude (database : Nat) (seed : UInt64) (lastQuery : Option String) (report : Report) :
    Except RunError Unit → StateM (Link σ) (Except RunError Report)
  | .ok () => do
    Link.note (notice .info
      ("Database " ++ toString database ++ " done (seed " ++ toString seed ++ ")"))
    return .ok report
  | .error e => do
    if e.isDisconnect then
      Link.note (notice .error
        ("Lost connection in database " ++ toString database ++ ": " ++ e.message))
      return .error e
    else
      Link.note (notice .error
        ("Database " ++ toString database ++ " failed (seed " ++ toString seed ++ "): " ++
          e.message))
      return .ok (report.addFailure { database, seed, error := e.message, lastQuery })

/-- One database from the checkout of a connection to its entry in the report. -/
def database (host : Host σ) (plan : Plan) (deadline : Option Nat) (number : Nat)
    (seed : UInt64) (report : Report) : StateM (Link σ) (Except RunError Report) := do
  match ← Link.onEngine host.checkout with
  | .error cause => return .error (.pool cause)
  | .ok () =>
    let ((result, panel), stats) ← inSession seed (workDatabase host plan deadline)
    let lastQuery := (Panel.oracle host.executor).lastQuery panel
    conclude number seed lastQuery (report.withStats stats) result

/-- That many databases, numbered from `number` on, with seeds drawn from `seeds`. -/
def databases (host : Host σ) (plan : Plan) (deadline : Option Nat) :
    Nat → Nat → Random.Source → Report → StateM (Link σ) (Except RunError Report)
  | 0, _, _, report => return .ok report
  | n + 1, number, seeds, report => do
    if ← budgetSpent host deadline then
      Link.note (notice .warn
        ("Stopping before database " ++ toString number ++ ": budget exhausted"))
      return .ok report
    else
      let (seed, seeds) := Random.freshSeed seeds
      match ← database host plan deadline number seed report with
      | .error e => return .error e
      | .ok report => databases host plan deadline n (number + 1) seeds report

/-- The whole campaign. Its deadline is a number without a bound. A time limit so long that no clock
can hold its end is left out: the campaign would break off here, before anything is sent and without
a report. -/
def run (host : Host σ) (plan : Plan) (seed : UInt64) :
    StateM (Link σ) (Except RunError Report) := do
  Link.note (notice .info ("Starting fuzz run with seed " ++ toString seed))
  let startedAt ← Link.onEngine host.wallClock
  let start ← Link.onEngine host.clock
  let deadline := plan.timeoutSeconds.map fun seconds => start + seconds * 1000
  match ← databases host plan deadline plan.databases 0 (.ofSeed seed) { seed, startedAt } with
  | .error e => return .error e
  | .ok report => return .ok { report with finishedAt := some (← Link.onEngine host.wallClock) }

end Campaign

end RowParity
