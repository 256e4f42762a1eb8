/-!
# The journal

Everything that a run reports goes into one journal in order: events of a session, and notices of
the parts around it. The same journal is read in two ways. `Journal.events` keeps the events as a
record of the session; `Journal.traced` turns every entry into a notice for a log file.
-/

namespace RowParity

/-- How much a notice matters. -/
inductive Level where
  | debug
  | info
  | warn
  | error
  deriving DecidableEq, Repr

/-- The order of levels. -/
def Level.rank : Level → Nat
  | debug => 0
  | info => 1
  | warn => 2
  | error => 3

/-- The part of the program that a notice comes from. -/
inductive Component where
  | campaign
  | executor
  | introspection
  | session
  | query
  deriving DecidableEq, Repr

/-- A line of the log. -/
structure Notice where
  level : Level
  component : Component
  message : String
  sql : Option String := none
  cause : Option String := none
  deriving DecidableEq, Repr

/-- What a session reports. -/
inductive Event where
  | query (sql : String)
  | info (message : String)
  | error (message : String) (sql : Option String)
  /-- An error was met and dealt with; `cause` is its whole text. -/
  | exception (cause : String) (sql : Option String)
  deriving DecidableEq, Repr

namespace Event

def query? : Event → Option String
  | query sql => some sql
  | _ => none

def info? : Event → Option String
  | info message => some message
  | _ => none

/-- The text and statement of an error, whichever way it was reported. -/
def error? : Event → Option (String × Option String)
  | error message sql | exception message sql => some (message, sql)
  | _ => none

/-- The event as a line of the log. There an exception has a message of its own, and its text
stands beside it. -/
def notice : Event → Notice
  | query sql => { level := .debug, component := .query, message := sql }
  | info message => { level := .info, component := .session, message }
  | error message sql => { level := .error, component := .session, message, sql }
  | exception cause sql =>
    { level := .error, component := .session, sql, cause := some cause
      message := if sql.isSome then "statement failed" else "operation failed" }

end Event

/-- An entry of the journal. -/
inductive Journal.Entry where
  | event (event : Event)
  | notice (notice : Notice)
  deriving DecidableEq, Repr

/-- What has been reported so far, oldest first. -/
structure Journal where
  entries : Array Journal.Entry := #[]
  deriving DecidableEq, Repr

namespace Journal

def log (journal : Journal) (event : Event) : Journal :=
  ⟨journal.entries.push (.event event)⟩

def note (journal : Journal) (notice : Notice) : Journal :=
  ⟨journal.entries.push (.notice notice)⟩

def noteAll (journal : Journal) (notices : List Notice) : Journal :=
  notices.foldl note journal

def Entry.event? : Entry → Option Event
  | .event e => some e
  | .notice _ => none

/-- The notice of an entry that is no event. -/
def Entry.notice? : Entry → Option Notice
  | .event _ => none
  | .notice n => some n

/-- The entry as a line of the log. -/
def Entry.traced : Entry → Notice
  | .event e => e.notice
  | .notice n => n

def events (journal : Journal) : List Event :=
  journal.entries.toList.filterMap Entry.event?

/-- The notices that are no events, in order. -/
def notices (journal : Journal) : List Notice :=
  journal.entries.toList.filterMap Entry.notice?

/-- Every entry as a line of the log. -/
def traced (journal : Journal) : List Notice :=
  journal.entries.toList.map Entry.traced

def queries (journal : Journal) : List String :=
  journal.events.filterMap Event.query?

def infos (journal : Journal) : List String :=
  journal.events.filterMap Event.info?

/-- The texts and statements of the error events. -/
def errors (journal : Journal) : List (String × Option String) :=
  journal.events.filterMap Event.error?

@[simp] theorem events_log (journal : Journal) (event : Event) :
    (journal.log event).events = journal.events ++ [event] := by
  simp [log, events, Entry.event?, List.filterMap_append]

@[simp] theorem events_note (journal : Journal) (notice : Notice) :
    (journal.note notice).events = journal.events := by
  simp [note, events, Entry.event?, List.filterMap_append]

@[simp] theorem events_noteAll (journal : Journal) (notices : List Notice) :
    (journal.noteAll notices).events = journal.events := by
  induction notices generalizing journal with
  | nil => rfl
  | cons n ns ih => exact (ih (journal.note n)).trans (events_note journal n)

end Journal

end RowParity
