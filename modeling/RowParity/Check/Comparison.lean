import RowParity.Check.Benign
import RowParity.Generate.Query
import RowParity.Session
import RowParity.Sql.Tautology

/-!
# One check

A check draws a query, adds a condition to it that always holds, and compares how many rows the two
forms give. It passes, or finds a mismatch, or meets an expected error; any other error is a
failure. The query that was sent last is kept, so that a failure can be traced.
-/

namespace RowParity

inductive Outcome where
  | pass (rows : Nat)
  | mismatch (finding : Finding)
  /-- A query was rejected for an expected reason. -/
  | expectedError (message pattern : String)
  deriving DecidableEq, Repr

namespace Check

variable {σ α : Type}

/-- The state of a check: the query that was sent last. -/
abbrev Memory := Option String

def sameCount (base rewritten : List Row) : Bool :=
  base.length == rewritten.length

/-- The plan text in the last cells of the rows. -/
def planText (rows : List Row) : String :=
  Text.trimmed (String.intercalate "\n" ((rows.filterMap List.getLast?).map Cell.plain))

/-- The plan of a query; nothing if the engine does not explain it. -/
def plan (x : Executor σ) (sql : String) : Step σ String := do
  let explain := "EXPLAIN " ++ sql
  match ← (Action.fetch x explain).result with
  | .ok rows => return planText rows
  | .error e =>
    Step.exception e (some explain)
    return ""

/-- The query of a check on a table, which must have columns. -/
def queryOn (table : Table) : Draw (Except RunError String) := do
  match ← Generate.baseQuery table with
  | none => return .error (.precondition ("table " ++ table.name ++ " has no columns"))
  | some sql => return .ok sql

/-- The query of a check on any table of the schema, which must have tables. -/
def drawQuery (schema : Schema) : Draw (Except RunError String) := do
  match ← schema.anyTable with
  | none => return .error (.precondition "no tables available in schema")
  | some table => queryOn table

def judge (x : Executor σ) (base rewritten : String) (baseRows rewrittenRows : List Row) :
    Step σ Outcome := do
  if sameCount baseRows rewrittenRows then return .pass baseRows.length
  else
    let basePlan ← plan x base
    let rewrittenPlan ← plan x rewritten
    return .mismatch
      { baseQuery := base, rewrittenQuery := rewritten, baseRows := baseRows.length
        rewrittenRows := rewrittenRows.length, basePlan, rewrittenPlan }

/-- Sends a query and its rewritten form and compares the results. Beside the outcome stands the
query that was sent last. -/
def compareForms (x : Executor σ) (base : String) :
    Step σ (Except RunError Outcome × Memory) := do
  let rewritten := Sql.withTautology base
  match ← (Action.fetch x base).result with
  | .error e => return (.error e, some base)
  | .ok baseRows =>
    match ← (Action.fetch x rewritten).result with
    | .error e => return (.error e, some rewritten)
    | .ok rewrittenRows =>
      return (.ok (← judge x base rewritten baseRows rewrittenRows), some rewritten)

/-- Draws a query and compares. A check that draws no query keeps the memory it started with. -/
def drawAndCompare (x : Executor σ) (memory : Memory) :
    Step σ (Except RunError Outcome × Memory) := do
  match ← Step.draw (drawQuery (← Step.schema)) with
  | .error e => return (.error e, memory)
  | .ok base => compareForms x base

/-- The outcome that an error stands for, if it is expected. -/
def expected? (e : RunError) : Option Outcome :=
  if e.isDisconnect then none
  else (BenignPattern.classify? e.decisiveText).map fun p => .expectedError e.message p.pattern

def record : Outcome → Step σ Unit
  | .pass rows => do
    Step.count fun s => { s with passes := s.passes + 1 }
    Step.info ("NoREC check passed: both queries returned " ++ toString rows ++ " rows")
  | .mismatch f => do
    Step.report (.error
      ("NoREC inconsistency: base query returned " ++ toString f.baseRows ++
        " rows, rewritten query returned " ++ toString f.rewrittenRows ++ " rows\n  base:      " ++
        f.baseQuery ++ "\n  rewritten: " ++ f.rewrittenQuery)
      (some f.rewrittenQuery))
    Step.count fun s => { s with findings := s.findings ++ [f] }
  | .expectedError message pattern => do
    Step.count fun s => { s with expectedErrors := s.expectedErrors + 1 }
    Step.info ("expected error (" ++ pattern ++ "): " ++ message)

/-- The outcome of a comparison. A failure that is neither expected nor a lost connection is
reported with the query that was sent last. -/
def settle (memory : Memory) : Except RunError Outcome → Step σ (Except RunError Outcome)
  | .ok outcome => do
    record outcome
    return .ok outcome
  | .error e =>
    match expected? e with
    | some outcome => do
      record outcome
      return .ok outcome
    | none => do
      if !e.isDisconnect then Step.exception e memory
      return .error e

/-- One check. The memory is handed on whether the check succeeds or fails. -/
def run (x : Executor σ) (memory : Memory) : Step σ (Except RunError Outcome × Memory) := do
  Step.count fun s => { s with checks := s.checks + 1 }
  let (result, memory) ← drawAndCompare x memory
  return (← settle memory result, memory)

end Check

end RowParity
