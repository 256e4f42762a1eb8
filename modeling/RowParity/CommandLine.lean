import RowParity.Settings.Basic

/-!
# The command line

Options have a long name and some also a short one; the value follows behind `=`, directly behind a
short name, or as the next word. A word that starts with a minus sign is never the value of the word
before it. Each option may be given once, except for the oracles, which add up.
-/

namespace RowParity

/-- Why a command line is not accepted, or what it asks for instead of a campaign. -/
inductive CommandLineError where
  | help
  | version
  /-- There is no such option, or a word stands alone. -/
  | unknownArgument
  /-- A value is missing, or it is none of the accepted ones. -/
  | invalidValue
  | unreadableValue
  | conflict
  /-- An option without a value is given one. -/
  | tooManyValues
  deriving DecidableEq, Repr

/-- What is said of a command line that is not accepted. -/
def CommandLineError.message : CommandLineError → String
  | help => "help was asked for"
  | version => "the version was asked for"
  | unknownArgument => "unknown argument"
  | invalidValue => "missing or invalid value"
  | unreadableValue => "a value cannot be read"
  | conflict => "an option is given twice"
  | tooManyValues => "an option takes no value"

namespace CommandLine

inductive Choice where
  | config
  | db
  | seed
  | numDatabases
  | numQueries
  | timeoutSecs
  | oracle
  | errorLog
  | report
  | jsonLogs
  | help
  | version
  deriving DecidableEq, Repr

namespace Choice

def all : List Choice :=
  [config, db, seed, numDatabases, numQueries, timeoutSecs, oracle, errorLog, report, jsonLogs,
    help, version]

def longName : Choice → String
  | config => "config"
  | db => "db"
  | seed => "seed"
  | numDatabases => "num-databases"
  | numQueries => "num-queries"
  | timeoutSecs => "timeout-secs"
  | oracle => "oracle"
  | errorLog => "error-log"
  | report => "report"
  | jsonLogs => "json-logs"
  | help => "help"
  | version => "version"

def letter? : Choice → Option Char
  | config => some 'c'
  | seed => some 's'
  | numQueries => some 'q'
  | help => some 'h'
  | version => some 'V'
  | _ => none

def explanation : Choice → String
  | config => "Path of the settings file"
  | db => "Database to test (:memory: or the path of a file)"
  | seed => "Seed of the run"
  | numDatabases => "Number of databases to generate"
  | numQueries => "Checks for each database"
  | timeoutSecs => "Stop after this many seconds"
  | oracle => "Oracles to run (may be given several times)"
  | errorLog => "Append warnings and errors to this file"
  | report => "Write a report in JSON to this file"
  | jsonLogs => "Write the log as JSON"
  | help => "Print this help"
  | version => "Print the version"

def takesValue : Choice → Bool
  | jsonLogs | help | version => false
  | _ => true

def isRepeatable : Choice → Bool
  | oracle => true
  | _ => false

def ofLongName? (name : List Char) : Option Choice :=
  all.find? fun choice => choice.longName.toList == name

def ofLetter? (c : Char) : Option Choice :=
  all.find? fun choice => choice.letter? == some c

def spelling (choice : Choice) : String :=
  let short := (choice.letter?.map fun c => "-" ++ c.toString ++ ", ").getD "    "
  short ++ "--" ++ choice.longName ++ if choice.takesValue then " <VALUE>" else ""

def helpLine (choice : Choice) : String :=
  let start := "  " ++ choice.spelling
  start ++ String.ofList (List.replicate (34 - start.length) ' ') ++ choice.explanation

end Choice

def helpText (program : String) : String :=
  String.intercalate "\n"
    (["Usage: " ++ program ++ " [OPTIONS]", "", "Options:"] ++ Choice.all.map Choice.helpLine)

/-- What has been read so far. -/
structure State where
  overrides : Overrides := {}
  seen : List Choice := []
  /-- An option that waits to be taken in, with its value if that has come. -/
  waiting : Option (Choice × Option String) := none
  /-- Whether the options have come to an end. -/
  ended : Bool := false

abbrev Result (α : Type) := Except CommandLineError α

def readNumber (value : String) : Result Nat :=
  match (Number.readUnsigned? value.toList).filter (· < Number.twoTo 64) with
  | some n => .ok n
  | none => .error .unreadableValue

/-- The name of a file, which must not be empty. -/
def readPath (value : String) : Result String :=
  if value.isEmpty then .error .invalidValue else .ok value

def readOracle (value : String) : Result OracleKind :=
  match OracleKind.ofName? value with
  | some kind => .ok kind
  | none => .error .invalidValue

def setValue (o : Overrides) (value : String) : Choice → Result Overrides
  | .config => return { o with settingsFile := some (← readPath value) }
  | .db => return { o with connection := some value }
  | .seed => return { o with seed := some (← readNumber value) }
  | .numDatabases => return { o with databases := some (← readNumber value) }
  | .numQueries => return { o with queriesPerDatabase := some (← readNumber value) }
  | .timeoutSecs => return { o with timeoutSeconds := some (← readNumber value) }
  | .oracle => return { o with oracles := o.oracles ++ [← readOracle value] }
  | .errorLog => return { o with errorLogFile := some (← readPath value) }
  | .report => return { o with reportPath := some (← readPath value) }
  | .jsonLogs | .help | .version => .error .tooManyValues

def markSeen (state : State) (choice : Choice) : Result State :=
  if state.seen.contains choice && !choice.isRepeatable then .error .conflict
  else .ok { state with seen := choice :: state.seen }

/-- Takes in an option with its value, if there is one. -/
def takeValue (state : State) (choice : Choice) : Option String → Result State
  | none => .error .invalidValue
  | some value => do
    let state ← markSeen state choice
    return { state with overrides := ← setValue state.overrides value choice }

/-- Takes in the option that waits, if one does. -/
def settle (state : State) : Result State :=
  match state.waiting with
  | none => .ok state
  | some (choice, value) => takeValue { state with waiting := none } choice value

def takeFlag (state : State) (choice : Choice) : Result State := do
  let state ← settle state
  match choice with
  | .help => .error .help
  | .version => .error .version
  | _ =>
    let state ← markSeen state choice
    return { state with overrides := { state.overrides with jsonLogs := true } }

/-- Takes in an option with a value, which may be attached to its name or still to come. -/
def takeOption (state : State) (choice : Choice) (attached : Option String) : Result State := do
  let state ← settle state
  match attached with
  | some value => takeValue state choice (some value)
  | none => return { state with waiting := some (choice, none) }

/-- Reads a word with a long name, given without its minus signs. -/
def readLong (state : State) (word : List Char) : Result State :=
  let attached :=
    match word.dropWhile (· != '=') with
    | _ :: value => some (String.ofList value)
    | [] => none
  match Choice.ofLongName? (word.takeWhile (· != '=')) with
  | none => .error .unknownArgument
  | some choice =>
    if choice.takesValue then takeOption state choice attached
    else if attached.isSome then .error .tooManyValues
    else takeFlag state choice

/-- Reads a word of short names, given without its minus sign. What follows the letter of an option
with a value is that value. -/
def readShort (state : State) : List Char → Result State
  | [] => .ok state
  | c :: cs =>
    match Choice.ofLetter? c with
    | none => .error .unknownArgument
    | some choice =>
      if choice.takesValue then
        let attached :=
          match cs with
          | [] => none
          | '=' :: value => some (String.ofList value)
          | value => some (String.ofList value)
        takeOption state choice attached
      else do
        readShort (← takeFlag state choice) cs

/-- Reads a word that may be a value. -/
def readPlain (state : State) (word : String) : Result State :=
  match state.waiting with
  | some (choice, none) =>
    if state.ended then .error .unknownArgument
    else .ok { state with waiting := some (choice, some word) }
  | _ => .error .unknownArgument

def readWord (state : State) (word : String) : Result State :=
  if state.ended then .error .unknownArgument
  else
    match word.toList with
    | ['-', '-'] => .ok { state with ended := true }
    | '-' :: '-' :: cs => readLong state cs
    | '-' :: c :: cs => readShort state (c :: cs)
    | _ => readPlain state word

def parse (words : List String) : Result Overrides := do
  let state ← settle (← words.foldlM readWord {})
  return state.overrides

end CommandLine

end RowParity
