import RowParity.Sql.Statement
import RowParity.Text.Search

/-!
# Adding a condition that always holds

`withTautology` gives a query one more condition, `1=1`, which no row can fail. The result must have
as many rows as the query itself, though the engine may plan it differently.
-/

namespace RowParity.Sql

/-- Whether the word `WHERE` stands in the text between blanks, in any case. -/
def hasFilter (cs : List Char) : Bool :=
  (Text.words cs).any fun word => word.map Char.toLower == "where".toList

/-- What is added to a query: a further condition if it has one, else the only one. -/
def tautology (cs : List Char) : String :=
  if hasFilter cs then " AND 1=1" else " WHERE 1=1"

/-- The query with a condition that always holds added to its filter. -/
def withTautology (sql : String) : String :=
  bare sql ++ tautology (bare sql).toList

end RowParity.Sql
