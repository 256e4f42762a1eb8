import RowParity.Calendar
import RowParity.Catalog.SemanticType
import RowParity.Number.Layout
import RowParity.Random.Source
import RowParity.Sql.Quoted

/-!
# Random literals

A literal of each semantic type, ready to stand in a statement: quotes are doubled, and numbers with
a fraction are written with a fixed number of places.
-/

namespace RowParity.Generate

open RowParity.Random

def naturalIn (low high : Nat) : Draw Nat := do
  return (← int32In low high).toNat

/-- A day of the years 2000 to 2025 that every month has. -/
def date : Draw Date := do
  let year ← naturalIn 2000 2025
  let month ← naturalIn 1 12
  let day ← naturalIn 1 28
  return (Date.ofParts? year month day).getD .epoch

def timeOfDay : Draw TimeOfDay := do
  let hour ← naturalIn 0 23
  let minute ← naturalIn 0 59
  let second ← naturalIn 0 59
  return (TimeOfDay.ofParts? hour minute second).getD .midnight

/-- The largest size of a number for a column of large integers. -/
def bigIntBound : Int := 1000000

/-- The largest number of characters in a string literal, before quotes are doubled. -/
def maxLiteralLength : Nat := 100

/-- A random string that fits into a literal. -/
def literalText : Draw String := do
  return String.ofList ((← shortString).toList.take maxLiteralLength)

def constant : Draw String := do
  if ← coin then return Sql.literal (← shortString)
  else return toString (← int32)

/-- A literal of the type. Columns of large objects get `NULL`. -/
def literalOf : SemanticType → Draw String
  | .integer => do return toString (← int32)
  | .smallInt => do return toString (← int32In (-32768) 32767)
  | .bigInt => do return toString (← int64In (-bigIntBound) bigIntBound)
  | .double | .float | .real => do return (← double).fixed 6
  | .decimal | .numeric => do return (← double).fixed 2
  | .varchar | .char => do return Sql.literal (← literalText)
  | .date => do return "DATE '" ++ (← date).text ++ "'"
  | .time => do return "TIME '" ++ (← timeOfDay).text ++ "'"
  | .timestamp => do
    let day ← date
    let time ← timeOfDay
    return "TIMESTAMP '" ++ day.text ++ " " ++ time.text ++ "'"
  | .boolean => do return if ← coin then "TRUE" else "FALSE"
  | .blob | .clob => return "NULL"

/-- A literal of the type if one is given, else any constant. -/
def value : Option SemanticType → Draw String
  | some ty => literalOf ty
  | none => constant

end RowParity.Generate
