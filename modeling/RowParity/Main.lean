import RowParity.CommandLine
import RowParity.Log
import RowParity.Rehearsal
import RowParity.Settings.Load

/-!
# The program

Reads the command line and the settings and rehearses the campaign that they describe against the
sample script. The log goes to standard error, the summary to standard output, the report to the
file that the settings name. The program ends with 0 if the campaign was clean, with 1 if it was
not or came to no end, and with 2 if the command line is not accepted.
-/

namespace RowParity.Program

def name : String := "row-parity"

def version : String := "0.1.0"

def places : Places where
  files := ["row-parity.toml", "config/row-parity.toml"]
  variableOpening := "row_parity__"

/-- What a path leads to, if it can be read. -/
def entryAt? (path : String) : IO (Option Entry) := do
  try
    let place ← IO.FS.realPath path
    if ← place.isDir then return some .folder
    else return some (.file (← IO.FS.readFile place))
  catch _ => return none

def surroundings (o : Overrides) : IO Surroundings := do
  let entries ← (Settings.candidates places o).filterMapM fun path => do
    return (← entryAt? path).map fun entry => (path, entry)
  let environment ← Settings.keys.filterMapM fun key => do
    let variableName := Settings.variableName places key
    return (← IO.getEnv variableName).map fun content => (variableName, content)
  return { entry? := fun path => entries.lookup path, environment }

/-- The seed of the settings, else a fresh one. -/
def seedFor (settings : Settings) : IO UInt64 :=
  match settings.fuzz.seed with
  | some seed => return .ofNat seed
  | none => return .ofNat (← IO.rand 0 (Number.twoTo 64 - 1))

def writeLog (logging : LoggingSettings) (journal : Journal) : IO Unit := do
  for notice in journal.tracedFrom .info do
    IO.eprintln (notice.line logging.json)
  if let some path := logging.errorLogFile then
    IO.FS.withFile path .append fun file => do
      for notice in journal.tracedFrom .warn do
        file.putStrLn notice.inWords

def writeReport (settings : Settings) (report : Report) : IO Unit := do
  IO.println report.summary
  if let some path := settings.reportPath then
    IO.FS.writeFile path report.toJson.pretty
    IO.println ("Report written to " ++ path)

def fail (message : String) : IO UInt32 := do
  IO.eprintln (name ++ ": " ++ message)
  return 1

def rehearse (settings : Settings) : IO UInt32 := do
  let rehearsal : Rehearsal :=
    { plan := settings.plan, seed := ← seedFor settings, script := .sample }
  match rehearsal.run with
  | .error e => fail e.message
  | .ok (result, link) =>
    writeLog settings.logging link.journal
    match result with
    | .error e => fail e.message
    | .ok report =>
      writeReport settings report
      return if report.isClean then 0 else 1

/-- Runs the program with the words of a command line. -/
def run (words : List String) : IO UInt32 := do
  match CommandLine.parse words with
  | .error .help =>
    IO.println (CommandLine.helpText name)
    return 0
  | .error .version =>
    IO.println (name ++ " " ++ version)
    return 0
  | .error e =>
    let _ ← fail e.message
    return 2
  | .ok o =>
    match Settings.load places (← surroundings o) o with
    | .error e => fail ("settings: " ++ e.message)
    | .ok settings => rehearse settings

end RowParity.Program

def main (words : List String) : IO UInt32 :=
  RowParity.Program.run words
