import RowParity.Catalog.Table

/-!
# Random queries

The query that a check starts from reads one column of a table, possibly filtered by its sign.
-/

namespace RowParity.Generate

def selectText (column table : String) : String :=
  "SELECT " ++ column ++ " FROM " ++ table

def positiveFilter (column : String) : String :=
  " WHERE " ++ column ++ " > 0"

/-- A query on the preferred column of the table. On the toss of a coin a numeric column is also
filtered; the coin is tossed for every column. A table without columns has no query. -/
def baseQuery (table : Table) : Draw (Option String) := do
  match table.queryColumn? with
  | none => return none
  | some column =>
    let filtered ← Random.coin
    let select := selectText column.name table.name
    return some (if filtered && column.semanticType.isNumeric then
      select ++ positiveFilter column.name else select)

end RowParity.Generate
