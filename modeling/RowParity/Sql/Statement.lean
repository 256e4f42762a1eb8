import RowParity.Text.Blank

/-!
# Statement texts

A statement may stand between blanks and end in one terminator. `bare` is the statement itself.
-/

namespace RowParity.Sql

/-- The text without a terminator at its end and the blanks before it. -/
def withoutTerminator (cs : List Char) : List Char :=
  match cs.reverse with
  | ';' :: rest => (Text.trimStart rest).reverse
  | _ => cs

/-- The statement without the blanks around it and without one terminator. -/
def bareChars (cs : List Char) : List Char :=
  withoutTerminator (Text.trim cs)

/-- The statement without the blanks around it and without one terminator. -/
def bare (sql : String) : String :=
  String.ofList (bareChars sql.toList)

end RowParity.Sql
