import RowParity.Catalog.Table
import RowParity.Generate.Literal

/-!
# Random rows

Statements that add one row to a table. The full form has a literal of its type for every column;
the minimal form fills only the first two columns and is tried when the full one was rejected.
-/

namespace RowParity.Generate

def insertText (table : String) (columns values : List String) : String :=
  "INSERT INTO " ++ table ++ " (" ++ String.intercalate ", " columns ++ ") VALUES (" ++
    String.intercalate ", " values ++ ")"

/-- The values of a computation for each column in order. -/
def valuesFor (f : Column → Draw String) : List Column → Draw (List String)
  | [] => return []
  | column :: columns => do
    let v ← f column
    return v :: (← valuesFor f columns)

/-- A row of the columns, if there are any. -/
def rowInsert? (table : String) (f : Column → Draw String) : List Column → Draw (Option String)
  | [] => return none
  | column :: columns => do
    let columns := column :: columns
    return some (insertText table (columns.map Column.name) (← valuesFor f columns))

/-- A row with a literal for every column. -/
def insert (table : Table) : Draw (Option String) :=
  rowInsert? table.name (fun column => literalOf column.semanticType) table.columns

/-- A literal for numbers and texts, and any constant for other types. -/
def simpleValue (column : Column) : Draw String :=
  if column.semanticType.isNumeric || column.semanticType.isTextual then
    literalOf column.semanticType
  else constant

/-- A row with values for the first two columns. -/
def minimalInsert (table : Table) : Draw (Option String) :=
  rowInsert? table.name simpleValue (table.columns.take 2)

end RowParity.Generate
