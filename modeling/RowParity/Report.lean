import RowParity.Calendar
import RowParity.Json.Record
import RowParity.Session

/-!
# Reports

What a campaign found and how often: the sums of the counts of its databases, the findings in the
order they were made, and the errors that ended the work on a database. A report can be written as
JSON.
-/

namespace RowParity

open Json (Value)

structure Failure where
  database : Nat
  seed : UInt64
  error : String
  lastQuery : Option String
  deriving DecidableEq, Repr

structure Report where
  seed : UInt64
  startedAt : Moment
  finishedAt : Option Moment := none
  databases : Nat := 0
  checks : Nat := 0
  passes : Nat := 0
  expectedErrors : Nat := 0
  findings : List Finding := []
  failures : List Failure := []
  deriving DecidableEq, Repr

namespace Report

/-- The report with the counts of one more database. -/
def withStats (report : Report) (stats : Stats) : Report :=
  { report with
    databases := report.databases + 1
    checks := report.checks + stats.checks
    passes := report.passes + stats.passes
    expectedErrors := report.expectedErrors + stats.expectedErrors
    findings := report.findings ++ stats.findings }

def addFailure (report : Report) (failure : Failure) : Report :=
  { report with failures := report.failures ++ [failure] }

def isClean (report : Report) : Bool :=
  report.findings.isEmpty && report.failures.isEmpty

def summary (report : Report) : String :=
  "Run finished (seed " ++ toString report.seed ++ "): " ++ toString report.databases ++
    " databases, " ++ toString report.checks ++ " checks, " ++ toString report.passes ++
    " passed, " ++ toString report.expectedErrors ++ " expected errors, " ++
    toString report.findings.length ++ " findings, " ++ toString report.failures.length ++
    " failures"

end Report

/-! ## Writing -/

def Finding.toJson (finding : Finding) : Value :=
  .record [("base_query", .ofText finding.baseQuery),
    ("rewritten_query", .ofText finding.rewrittenQuery), ("base_rows", .ofNat finding.baseRows),
    ("rewritten_rows", .ofNat finding.rewrittenRows), ("base_plan", .ofText finding.basePlan),
    ("rewritten_plan", .ofText finding.rewrittenPlan)]

def Stats.toJson (stats : Stats) : Value :=
  .record [("checks", .ofNat stats.checks), ("passes", .ofNat stats.passes),
    ("expected_errors", .ofNat stats.expectedErrors),
    ("findings", .ofList Finding.toJson stats.findings)]

def Failure.toJson (failure : Failure) : Value :=
  .record [("database", .ofNat failure.database), ("seed", .ofNat failure.seed.toNat),
    ("error", .ofText failure.error), ("last_query", .ofOption .ofText failure.lastQuery)]

def Report.toJson (report : Report) : Value :=
  .record [("seed", .ofNat report.seed.toNat), ("started_at", .ofText report.startedAt.text),
    ("finished_at", .ofOption (.ofText ·.text) report.finishedAt),
    ("databases", .ofNat report.databases), ("checks", .ofNat report.checks),
    ("passes", .ofNat report.passes), ("expected_errors", .ofNat report.expectedErrors),
    ("findings", .ofList Finding.toJson report.findings),
    ("failures", .ofList Failure.toJson report.failures)]

end RowParity
