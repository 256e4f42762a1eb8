import RowParity.Catalog.Table

/-!
# Random tables

A generated table starts with an identity column and goes on with one to four columns of supported
types. Its name joins an ordinal, a time stamp and the number of the run.
-/

namespace RowParity.Generate

open RowParity.Random

def supportedTypes : List String :=
  ["INTEGER", "SMALLINT", "BIGINT", "DOUBLE", "REAL", "DECIMAL(10,2)", "VARCHAR(50)", "CHAR(10)",
    "DATE", "TIME", "TIMESTAMP", "BOOLEAN"]

def identityName : String := "id"

def identityColumn : Column :=
  (Column.declared identityName "INTEGER").notNull

/-- A name that no other table of this or another run has. -/
def tableName (ordinal : Nat) (millis : Int) (runId : Nat) : String :=
  "t" ++ toString ordinal ++ "_" ++ toString millis ++ "_" ++ toString runId

/-- The name of the further column with the given number. -/
def columnName (i : Nat) : String :=
  "c" ++ toString i

/-- The further column with the given number, closed to `NULL` on the toss of a coin. -/
def furtherColumn (i : Nat) : Draw Column := do
  let declared := (← choose supportedTypes).getD "INTEGER"
  return (Column.declared (columnName i) declared).notNullIf (← coin)

/-- As many further columns, numbered from `i` on. -/
def furtherColumns : Nat → Nat → Draw (List Column)
  | 0, _ => return []
  | n + 1, i => do
    let column ← furtherColumn i
    return column :: (← furtherColumns n (i + 1))

def table (name : String) : Draw Table := do
  let count ← int32In 1 4
  return .plain name (identityColumn :: (← furtherColumns count.toNat 0))

end RowParity.Generate
