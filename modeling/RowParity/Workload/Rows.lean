import RowParity.Generate.Insert
import RowParity.Session

/-!
# Adding rows

`addRow` adds one row to a table, with a second and simpler attempt if the first is rejected;
`topUp` gives rows to every table that is empty.
-/

namespace RowParity.Action

variable {σ : Type}

/-- Sends the statement of a draw, if there is one. The answer is whether it was accepted. -/
def tryGenerated (x : Executor σ) (d : Draw (Option String)) : Action σ Bool := do
  match ← draw d with
  | none => return false
  | some sql => tryExecute x sql

/-- Adds a row to the table, in the full form or else in the minimal one. The answer is whether a
row was added. A table without columns is left alone. -/
def addRow (x : Executor σ) (table : Table) : Action σ Bool := do
  match ← draw (Generate.insert table) with
  | none => return false
  | some sql =>
    if ← tryExecute x sql then return true
    else tryGenerated x (Generate.minimalInsert table)

/-- Tries to add that many rows. The answer is whether any was added. -/
def addRows (x : Executor σ) (table : Table) : Nat → Action σ Bool
  | 0 => return false
  | n + 1 => do
    let first ← addRow x table
    let others ← addRows x table n
    return first || others

/-- The attempts to add rows to an empty table. -/
def topUpAttempts : Nat := 5

def countQuery (table : String) : String :=
  "SELECT COUNT(*) FROM " ++ table

def saysZero (rows : List Row) : Bool :=
  match rows with
  | (cell :: _) :: _ => cell.plain == "0"
  | _ => false

/-- Whether the table is empty as far as can be told. -/
def isEmptyTable (x : Executor σ) (table : Table) : Action σ Bool := do
  let sql := countQuery table.name
  match ← attempt (fetch x sql) with
  | .ok rows => return saysZero rows
  | .error e =>
    if e.isDisconnect then throw e
    else
      exception e (some sql)
      return false

/-- Adds rows to those of the tables that are empty. The answer is whether any row was added. -/
def topUpTables (x : Executor σ) : List Table → Action σ Bool
  | [] => return false
  | table :: tables => do
    let added ←
      if ← isEmptyTable x table then addRows x table topUpAttempts else pure false
    let others ← topUpTables x tables
    return added || others

/-- Adds rows to every empty table of the schema. The answer is whether any row was added. -/
def topUp (x : Executor σ) : Action σ Bool := do
  topUpTables x (← schema).tables

end RowParity.Action
