/-!
# What can go wrong

An engine either rejects one statement and stays usable, or its connection is gone. A run adds its
own causes. Only a lost connection ends a run at once; other errors are weighed by the text that the
engine gave, without the statement it was given for.
-/

namespace RowParity

inductive EngineError where
  | connection (message : String)
  /-- One statement was rejected; the connection is well. -/
  | statement (sql message : String)
  deriving DecidableEq, Repr

namespace EngineError

def isDisconnect : EngineError → Bool
  | connection _ => true
  | statement .. => false

/-- The text of the engine, without the statement. -/
def reason : EngineError → String
  | connection message => message
  | statement _ message => message

def message : EngineError → String
  | connection message => "connection error: " ++ message
  | statement sql message => message ++ " [sql: " ++ sql ++ "]"

end EngineError

inductive RunError where
  /-- The tables of the database could not be listed. -/
  | connectivity (message : String)
  | precondition (message : String)
  /-- The schema could not be read again after a change. -/
  | schemaVisibility (message : String)
  | engine (error : EngineError)
  /-- No connection came free; the cause is the last failed attempt to open one. -/
  | pool (cause : Option String)
  | settings (message : String)
  /-- A file could not be read or written. -/
  | io (message : String)
  deriving DecidableEq, Repr

namespace RunError

/-- What is said of a pool without a free connection. -/
def poolReason : Option String → String
  | none => "timed out waiting for connection"
  | some cause => "timed out waiting for connection: " ++ cause

def message : RunError → String
  | connectivity message => "connectivity error: " ++ message
  | precondition message => "precondition failed: " ++ message
  | schemaVisibility message => "schema refresh failed after retry: " ++ message
  | engine error => error.message
  | pool cause => "connection pool error: " ++ poolReason cause
  | settings message => "configuration error: " ++ message
  | io message => "io error: " ++ message

/-- Whether the error means that the database cannot be reached. -/
def isDisconnect : RunError → Bool
  | connectivity _ | pool _ => true
  | engine error => error.isDisconnect
  | _ => false

/-- The text that decides whether the error is expected. For an error of the engine it leaves out
the statement, so that no name in the statement can decide. -/
def decisiveText : RunError → String
  | engine error => error.reason
  | error => error.message

end RunError

end RowParity
