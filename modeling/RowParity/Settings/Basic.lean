import RowParity.Campaign

/-!
# Settings

What a campaign is run with. Settings are put together from several layers, then changed by the
options of the command line, and then checked: whatever layer a value came from, accepted settings
have a pool of at least one connection and a probability from zero to one.
-/

namespace RowParity

/-- Where the database is. -/
structure DatabaseSettings where
  /-- A file, or the name of a database in memory. -/
  connection : String := ":memory:"
  poolSize : Nat := 1
  deriving DecidableEq, Repr

/-- The chance of a mutation where nothing else is set: a tenth. -/
def defaultMutationProbability : Number.Double := .ofRatio false 1 10

structure FuzzSettings where
  /-- The seed of the campaign; one is made up if there is none. -/
  seed : Option Nat := none
  databases : Nat := 1
  queriesPerDatabase : Nat := 100
  timeoutSeconds : Option Nat := none
  oracles : List OracleKind := [.noRec]
  mutationProbability : Number.Double := defaultMutationProbability
  requireRows : Bool := false
  deriving DecidableEq, Repr

structure LoggingSettings where
  errorLogFile : Option String := none
  json : Bool := false
  deriving DecidableEq, Repr

structure Settings where
  database : DatabaseSettings := {}
  fuzz : FuzzSettings := {}
  logging : LoggingSettings := {}
  reportPath : Option String := none
  deriving DecidableEq, Repr

structure Overrides where
  settingsFile : Option String := none
  connection : Option String := none
  seed : Option Nat := none
  databases : Option Nat := none
  queriesPerDatabase : Option Nat := none
  timeoutSeconds : Option Nat := none
  oracles : List OracleKind := []
  errorLogFile : Option String := none
  reportPath : Option String := none
  jsonLogs : Bool := false
  deriving DecidableEq, Repr

inductive SettingsError where
  /-- The value under the key is of the wrong kind. -/
  | wrongType (key : String)
  /-- What stands under the key does not have the right form. -/
  | wrongForm (key : String)
  | missing (key : String)
  /-- A settings file cannot be read as a document. -/
  | unparsable
  | unreadable
  | invalid (message : String)
  deriving DecidableEq, Repr

def SettingsError.message : SettingsError → String
  | wrongType key => "wrong kind of value under " ++ key
  | wrongForm key => "wrong form of value under " ++ key
  | missing key => "no value under " ++ key
  | unparsable => "the settings file cannot be read as a document"
  | unreadable => "the settings file cannot be found"
  | invalid message => message

namespace Settings

/-- The settings with the options of the command line in place of what they name. -/
def override (settings : Settings) (o : Overrides) : Settings where
  database := { settings.database with
    connection := o.connection.getD settings.database.connection }
  fuzz := { settings.fuzz with
    seed := o.seed.or settings.fuzz.seed
    databases := o.databases.getD settings.fuzz.databases
    queriesPerDatabase := o.queriesPerDatabase.getD settings.fuzz.queriesPerDatabase
    timeoutSeconds := o.timeoutSeconds.or settings.fuzz.timeoutSeconds
    oracles := if o.oracles.isEmpty then settings.fuzz.oracles else o.oracles }
  logging :=
    { errorLogFile := o.errorLogFile.or settings.logging.errorLogFile
      json := o.jsonLogs || settings.logging.json }
  reportPath := o.reportPath.or settings.reportPath

def isProbability (p : Number.Double) : Bool :=
  match p.value? with
  | some q => decide (0 ≤ q) && decide (q ≤ 1)
  | none => false

def validate (settings : Settings) : Except SettingsError Unit :=
  let p := settings.fuzz.mutationProbability
  if settings.database.poolSize = 0 then
    .error (.invalid "database.pool_size must be at least 1")
  else if !isProbability p then
    .error (.invalid ("fuzz.mutation_probability must be within [0, 1], got " ++ p.plain))
  else .ok ()

def validated (settings : Settings) : Except SettingsError Settings :=
  settings.validate.map fun () => settings

def plan (settings : Settings) : Plan where
  databases := settings.fuzz.databases
  rounds := settings.fuzz.queriesPerDatabase
  timeoutSeconds := settings.fuzz.timeoutSeconds
  oracles := settings.fuzz.oracles
  mutationProbability := settings.fuzz.mutationProbability
  requireRows := settings.fuzz.requireRows

end Settings

end RowParity
