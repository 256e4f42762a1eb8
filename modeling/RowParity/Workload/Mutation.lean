import RowParity.Generate.Predicate
import RowParity.Session

/-!
# Changing rows

Between checks the rows of a table may be changed by one update. Condition, column and value are
random; the condition picks the table.
-/

namespace RowParity.Generate

def updateText (table column value filter : String) : String :=
  "UPDATE " ++ table ++ " SET " ++ column ++ " = " ++ value ++ " WHERE " ++ filter

/-- An update of a column of a table. There is none if the table that came up has no columns. -/
def update (schema : Schema) : Draw (Option String) := do
  match ← anyPredicate schema with
  | none => return none
  | some (table, filter) =>
    match ← table.anyColumn with
    | none => return none
    | some target =>
      let v ← literalOf target.semanticType
      return some (updateText table.name target.name v filter)

end RowParity.Generate

namespace RowParity.Action

/-- Sends one random update. The answer is whether it was accepted. -/
def updateRows {σ : Type} (x : Executor σ) : Action σ Bool := do
  match ← draw (Generate.update (← schema)) with
  | none => return false
  | some sql => tryExecute x sql

end RowParity.Action
