import RowParity.Campaign
import RowParity.Engine.Pool
import RowParity.Engine.Scripted

/-!
# Rehearsals

A campaign against a script in place of a database: the same code runs, and a list of rules answers.
Time stands still, so only a timeout of zero ever comes, and a checkout waits for every connection
that the script will yield.
-/

namespace RowParity

/-- Takes a connection to the script. The probe can change the rules only as often as statements are
outstanding, so a script that rejects it once more rejects it for ever. -/
def Script.checkout : StateM Script (Except (Option String) Unit) := do
  Script.engine.checkout (Script.Rule.outstanding (← get).rules + 1) none

/-- A campaign to be run against a script. -/
structure Rehearsal where
  plan : Plan
  seed : UInt64
  script : Script
  /-- Whether the only connection is in use elsewhere. -/
  busy : Bool := false
  now : Moment := 0

namespace Rehearsal

def host (rehearsal : Rehearsal) : Host Script where
  executor := Script.engine.probing
  checkout := if rehearsal.busy then return .error none else Script.checkout
  stopRequested := do return (← get).stopped
  clock := return 0
  wallClock := return rehearsal.now

/-- The checkout by which the connection came to be in use elsewhere. -/
def occupy (rehearsal : Rehearsal) : StateM Script Unit := do
  if rehearsal.busy then
    let _ ← Script.checkout

/-- Runs the campaign. The script must open, since the pool opens its connection in advance. -/
def run (rehearsal : Rehearsal) : Except RunError (Except RunError Report × Link Script) :=
  match rehearsal.script.openError with
  | some text => .error (.pool (some text))
  | none =>
    let (_, script) := rehearsal.occupy rehearsal.script
    .ok (Campaign.run rehearsal.host rehearsal.plan rehearsal.seed { engine := script })

end Rehearsal

/-- A script in which the catalog holds one table without rows and every other statement is taken
without an answer. -/
def Script.sample : Script where
  rules :=
    [{ fragment := "information_schema.tables"
       effect := .reply ["table_name"] [[.text "sample"]] },
      { fragment := "information_schema.columns"
        effect := .reply ["column_name", "data_type", "character_maximum_length", "is_nullable"]
          [[.text "id", .text "INTEGER", .null, .text "NO"],
            [.text "note", .text "VARCHAR", .integer .int 50, .text "YES"]] }]

/-- A link to a script for a single session; a script that does not open is a lost connection. -/
def Script.link? (script : Script) : Except RunError (Link Script) :=
  match script.openError with
  | some text => .error (.engine (.connection text))
  | none => .ok { engine := script }

end RowParity
