import RowParity.Document.Notation
import RowParity.Document.Path
import RowParity.Settings.Decode
import RowParity.Settings.Folder
import RowParity.Text.Case
import RowParity.Text.Search

/-!
# Loading settings

The lower layers of the settings are laid over each other: the defaults, one file, the environment,
of which the last two are put together first. The file is the one that the command line names, else
the first of the usual ones that exists. Then the options of the command line take the places of
what they name, and the whole is validated.
-/

namespace RowParity

/-! ## Surroundings -/

/-- What paths lead to, and the environment by name of the variable. -/
structure Surroundings where
  entry? : String → Option Entry := fun _ => none
  environment : List (String × String) := []

/-- Where settings are looked for when the command line names no file. -/
structure Places where
  files : List String
  /-- How the names of variables start, in lower case. -/
  variableOpening : String

def Surroundings.content? (s : Surroundings) (path : String) : Option String :=
  (s.entry? path).bind Entry.content?

namespace Settings

def readDocument (format : Notation) (content : String) : Decode Tree :=
  match format.read? content with
  | some tree => .ok tree
  | none => .error .unparsable

/-- The paths with the endings of notations that complete a path. -/
def completions (formats : List Notation) (path : String) : List (Notation × String) :=
  formats.filterMap fun format => (withMoreEnding? path format.extension).map (format, ·)

/-- Reads the first file that completes a path. -/
def completed (s : Surroundings) (formats : List Notation) (path : String) : Decode Tree :=
  match (completions formats path).findSome? fun entry => (s.content? entry.2).map (entry.1, ·) with
  | some (format, content) => readDocument format content
  | none => .error .unreadable

/-- Reads a settings file by the path that the command line gives. A file of that very path must end
in a known way; if there is none, the known endings are tried. -/
def namedFile (s : Surroundings) (path : String) : Decode Tree :=
  match s.content? path with
  | some content =>
    match Notation.all.find? fun format => ending? path == some format.extension with
    | some format => readDocument format content
    | none => .error .unreadable
  | none => completed s Notation.all path

/-- Reads the first of the usual files that exists, if one does. A folder in its place has to be
completed to a file. -/
def usualFile (s : Surroundings) (places : Places) : Decode Tree :=
  match places.files.find? fun path => (s.entry? path).isSome with
  | none => .ok (.table [])
  | some path =>
    match s.content? path with
    | some content => readDocument .toml content
    | none => completed s [.toml] path

/-- The document of the one file that settings are read from. -/
def fileLayer (places : Places) (s : Surroundings) (o : Overrides) : Decode Tree :=
  match o.settingsFile with
  | some path => namedFile s path
  | none => usualFile s places

/-- The settings that hold where nothing else is said. -/
def defaultLayer : List (String × Tree) :=
  let settings : Settings := {}
  [("database.connection_string", .text settings.database.connection),
    ("database.pool_size", .integer settings.database.poolSize),
    ("fuzz.num_databases", .integer settings.fuzz.databases),
    ("fuzz.queries_per_database", .integer settings.fuzz.queriesPerDatabase),
    ("fuzz.oracles", .list (settings.fuzz.oracles.map fun kind => .text kind.name)),
    ("fuzz.mutation_probability", .number settings.fuzz.mutationProbability),
    ("fuzz.require_rows", .boolean settings.fuzz.requireRows),
    ("logging.json", .boolean settings.logging.json)]

/-- The setting that a variable of the environment stands for, if it is one of ours: double
underscores are points. -/
def ofVariable? (places : Places) (variableEntry : String × String) : Option (String × Tree) :=
  let name := Text.lower variableEntry.1.toList
  let opening := places.variableOpening.toList
  if opening.isPrefixOf name then
    let key := String.ofList (name.drop opening.length)
    some (Text.replaced key "__" ".", .text variableEntry.2)
  else none

def keys : List String :=
  ["database.connection_string", "database.pool_size", "fuzz.seed", "fuzz.num_databases",
    "fuzz.queries_per_database", "fuzz.timeout_secs", "fuzz.oracles", "fuzz.mutation_probability",
    "fuzz.require_rows", "logging.error_log_file", "logging.json", "report.path"]

/-- The usual spelling of the variable that stands for a setting. -/
def variableName (places : Places) (key : String) : String :=
  String.ofList (Text.upper (places.variableOpening ++ Text.replaced key "." "__").toList)

def variableLayer (places : Places) (s : Surroundings) : List (String × Tree) :=
  s.environment.filterMap (ofVariable? places)

/-- The layer above the defaults: the environment laid over the file. -/
def upperLayer (places : Places) (s : Surroundings) (o : Overrides) : Decode Tree := do
  let file ← fileLayer places s o
  return ((Tree.table []).setAll file.entries).setAll (variableLayer places s)

/-- The settings before the options of the command line. -/
def lower (places : Places) (s : Surroundings) (o : Overrides) : Decode Settings := do
  let upper ← upperLayer places s o
  decode (((Tree.table []).setAll defaultLayer).setAll upper.entries).entries

def load (places : Places) (s : Surroundings) (o : Overrides) : Decode Settings := do
  let settings ← lower places s o
  (settings.override o).validated

def candidates (places : Places) (o : Overrides) : List String :=
  match o.settingsFile with
  | some path => path :: (completions Notation.all path).map (·.2)
  | none => places.files ++ places.files.flatMap fun path => (completions [.toml] path).map (·.2)

end Settings

end RowParity
