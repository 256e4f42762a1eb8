import RowParity.Catalog.Schema
import RowParity.Generate.Literal

/-!
# Random conditions

A condition on one column: a pattern for texts, equality with a literal for everything else.
-/

namespace RowParity.Generate

def predicate (column : Column) : Draw String := do
  if column.semanticType.isTextual then
    let needle ← literalText
    return column.name ++ " LIKE '%" ++ Sql.escaped needle ++ "%'"
  else
    return column.name ++ " = " ++ (← literalOf column.semanticType)

/-- A condition on any column of any table, with the table. There is none if the table that came up
has no columns. -/
def anyPredicate (schema : Schema) : Draw (Option (Table × String)) := do
  match ← schema.anyTable with
  | none => return none
  | some table =>
    match ← table.anyColumn with
    | none => return none
    | some column => return some (table, ← predicate column)

end RowParity.Generate
