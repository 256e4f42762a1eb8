import RowParity.Catalog.Table

/-!
# Reading table definitions

`Table.ofCreateStatement?` reads the statements that `Table.createStatement` writes: a name and, in
parentheses, column definitions set apart by commas. A column definition is a name, a declared type
and possibly `NOT NULL`. Commas inside parentheses belong to a type. Definitions without a blank
between name and type are passed over.
-/

namespace RowParity.Sql

/-- The rest of the text after a word, which is given in lower case. Only the case of ASCII letters
is overlooked. -/
def afterWord? : List Char → List Char → Option (List Char)
  | [], cs => some cs
  | _ :: _, [] => none
  | w :: ws, c :: cs => if c.toLower = w then afterWord? ws cs else none

/-- The rest of the text after at least one blank. -/
def afterBlanks? : List Char → Option (List Char)
  | c :: cs => if Text.isBlank c then some (Text.trimStart cs) else none
  | [] => none

/-- Whether a table name may start with the character. The letters that case folding sends to ASCII
letters count as such. -/
def isNameStart (c : Char) : Bool :=
  c.isAlpha || c = '_' || c = '\u017F' || c = '\u212A'

def isNameChar (c : Char) : Bool :=
  isNameStart c || c.isDigit

/-- The part of the text up to the last closing parenthesis, and what follows that. -/
def splitAtLastParen? (cs : List Char) : Option (List Char × List Char) :=
  match cs.reverse.dropWhile (· != ')') with
  | [] => none
  | _ :: body => some (body.reverse, (cs.reverse.takeWhile (· != ')')).reverse)

/-- Whether the text is at most one terminator with blanks around it. -/
def isStatementEnd (cs : List Char) : Bool :=
  match Text.trimStart cs with
  | ';' :: rest => (Text.trimStart rest).isEmpty
  | rest => rest.isEmpty

/-- The pieces of a text between the commas at depth zero. Depth counts the open parentheses and
does not fall below zero. -/
def topLevelPieces : Nat → List Char → List (List Char)
  | _, [] => [[]]
  | depth, c :: cs =>
    if c = '(' then Text.consHead c (topLevelPieces (depth + 1) cs)
    else if c = ')' then Text.consHead c (topLevelPieces (depth - 1) cs)
    else if c = ',' ∧ depth = 0 then [] :: topLevelPieces 0 cs
    else Text.consHead c (topLevelPieces depth cs)

/-- The text before a trailing `NOT NULL` that a blank sets off, held back to front like the text
itself. -/
def beforeNotNull? (reversed : List Char) : Option (List Char) := do
  let rest ← afterWord? "llun".toList (Text.trimStart reversed)
  let rest ← afterBlanks? rest
  let rest ← afterWord? "ton".toList rest
  afterBlanks? rest

/-- The declared type in what follows a column name, and whether the column is closed to `NULL`. -/
def readModifiers (cs : List Char) : List Char × Bool :=
  match beforeNotNull? cs.reverse with
  | some rest => (Text.trim rest.reverse, true)
  | none => (Text.trim cs, false)

def readColumn? (cs : List Char) : Option Column :=
  let trimmed := Text.trim cs
  match trimmed.dropWhile (!Text.isBlank ·) with
  | [] => none
  | _ :: rest =>
    let name := trimmed.takeWhile (!Text.isBlank ·)
    let (declared, notNull) := readModifiers rest
    some ((Column.declared (String.ofList name) (String.ofList declared)).notNullIf notNull)

/-- The head of a table definition: the name, and what follows the opening parenthesis. -/
def readHead? (cs : List Char) : Option (List Char × List Char) := do
  let rest ← afterWord? "create".toList (Text.trimStart cs)
  let rest ← afterBlanks? rest
  let rest ← afterWord? "table".toList rest
  let rest ← afterBlanks? rest
  match rest with
  | [] => none
  | c :: cs =>
    if isNameStart c then
      match Text.trimStart (cs.dropWhile isNameChar) with
      | '(' :: body => some (c :: cs.takeWhile isNameChar, body)
      | _ => none
    else none

def readTable? (cs : List Char) : Option Table := do
  let (name, rest) ← readHead? cs
  let (body, tail) ← splitAtLastParen? rest
  let columns := (topLevelPieces 0 body).filterMap readColumn?
  if isStatementEnd tail && !columns.isEmpty then
    some (Table.plain (String.ofList name) columns)
  else none

end RowParity.Sql

def RowParity.Table.ofCreateStatement? (sql : String) : Option RowParity.Table :=
  RowParity.Sql.readTable? sql.toList
