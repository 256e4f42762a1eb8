import RowParity.Generate.Table
import RowParity.Sql.Definition
import RowParity.Text.Quoted
import RowParity.Workload.Rows

/-!
# Filling a database

`fillDatabase` creates two to four tables, reads the schema anew and adds one to three rows to each
of the tables that were created. Rejected statements are reported and passed over.
-/

namespace RowParity.Action

variable {σ : Type}

/-- Creates the tables with the ordinals from `i` on, and gives those that were accepted. -/
def createTables (x : Executor σ) (millis : Int) (runId : Nat) :
    Nat → Nat → Action σ (List Table)
  | 0, _ => return []
  | n + 1, i => do
    let table ← draw (Generate.table (Generate.tableName i millis runId))
    let sql := table.createStatement
    let accepted ← tryExecute x sql
    let others ← createTables x millis runId n (i + 1)
    return if accepted then (Table.ofCreateStatement? sql).getD table :: others else others

/-- The table as the schema has it, else as it was generated. -/
def visibleTable (generated : Table) : Action σ Table := do
  match (← schema).table? generated.name with
  | some table => return table
  | none =>
    info ("Table " ++ generated.name ++
      " not visible after refresh, using generated definition")
    return generated

/-- Adds one to three rows to each of the tables. -/
def seedTables (x : Executor σ) : List Table → Action σ Unit
  | [] => return ()
  | generated :: others => do
    let table ← visibleTable generated
    let rows ← draw (Random.int32In 1 3)
    info ("Inserting " ++ toString rows ++ " rows into table " ++ table.name)
    let _ ← addRows x table rows.toNat
    seedTables x others

/-- The largest number of a run in table names. -/
def maxRunId : Int := 9999

/-- Fills the database. `millis` is the time in milliseconds, which enters the names of the tables.
The answer is the names of the tables that were created. -/
def fillDatabase (x : Executor σ) (millis : Int) : Action σ (List String) := do
  let count ← draw (Random.int32In 2 4)
  info ("Creating " ++ toString count ++ " tables")
  let runId ← draw (Random.int32In 0 maxRunId)
  let created ← createTables x millis runId.toNat count.toNat 0
  renewSchema x
  let names := created.map Table.name
  info ("Tables created: " ++ Text.quotedList names)
  seedTables x created
  info ("Database generation completed: " ++ toString (← schema).size ++
    " tables created")
  return names

end RowParity.Action
