import RowParity.Journal
import RowParity.Json.Printer
import RowParity.Json.Record

/-!
# Lines of the log

A notice is written as one line, in words or as JSON. The console shows progress and everything more
pressing; the error log keeps warnings and errors.
-/

namespace RowParity

def Level.name : Level → String
  | debug => "DEBUG"
  | info => "INFO"
  | warn => "WARN"
  | error => "ERROR"

/-- The name of a part of the program. -/
def Component.name : Component → String
  | campaign => "campaign"
  | executor => "executor"
  | introspection => "introspection"
  | session => "session"
  | query => "query"

namespace Notice

/-- Whether the notice is at least as pressing as the level. -/
def isAtLeast (level : Level) (notice : Notice) : Bool :=
  level.rank ≤ notice.level.rank

def inWords (notice : Notice) : String :=
  notice.level.name ++ " " ++ notice.component.name ++ ": " ++ notice.message ++
    ((notice.cause.map fun cause => " error=" ++ cause).getD "") ++
    ((notice.sql.map fun sql => " sql=" ++ Json.quotedText sql).getD "")

def toJson (notice : Notice) : Json.Value :=
  .record ([("level", .ofText notice.level.name), ("target", .ofText notice.component.name),
      ("message", .ofText notice.message)] ++
    (notice.sql.map fun sql => ("sql", Json.Value.ofText sql)).toList ++
    (notice.cause.map fun cause => ("error", Json.Value.ofText cause)).toList)

def line (asJson : Bool) (notice : Notice) : String :=
  if asJson then notice.toJson.line else notice.inWords

end Notice

/-- The notices of a journal that are at least as pressing as the level. -/
def Journal.tracedFrom (level : Level) (journal : Journal) : List Notice :=
  journal.traced.filter (·.isAtLeast level)

end RowParity
