import RowParity.Json.Value

/-!
# Writing JSON

`Value.line` writes a value on one line, `Value.pretty` over several lines with two spaces for each
level of nesting.
-/

namespace RowParity.Json

/-- A character as it stands in a text: quotes, backslashes and controls are escaped. -/
def escapedChar (c : Char) : List Char :=
  if c = '"' then ['\\', '"']
  else if c = '\\' then ['\\', '\\']
  else if c = '\x08' then ['\\', 'b']
  else if c = '\x0c' then ['\\', 'f']
  else if c = '\n' then ['\\', 'n']
  else if c = '\r' then ['\\', 'r']
  else if c = '\t' then ['\\', 't']
  else if c.toNat < 0x20 then '\\' :: 'u' :: Number.paddedIn 16 4 c.toNat
  else [c]

def quotedText (s : String) : String :=
  "\"" ++ String.ofList (s.toList.flatMap escapedChar) ++ "\""

/-- A text between quotes; one that stands for no characters is shown by a replacement mark. -/
def quotedContent (content : Option String) : String :=
  quotedText (content.getD "\ufffd")

def Numeral.text (n : Numeral) : String :=
  let sign := if n.negative then "-" else ""
  let fraction := if n.fraction.isEmpty then "" else "." ++ String.ofList n.fraction
  let exponent := (n.exponent.map fun e => "e" ++ toString e).getD ""
  sign ++ String.ofList n.whole ++ fraction ++ exponent

/-- How the parts of a list or an object are set apart. -/
structure Spacing where
  /-- What stands between the brackets and the parts at a depth. -/
  gap : Nat → String
  afterColon : String

namespace Spacing

def tight : Spacing where
  gap _ := ""
  afterColon := ""

/-- A line for each part, moved in by two spaces for each level. -/
def lines : Spacing where
  gap depth := "\n" ++ String.ofList (List.replicate (2 * depth) ' ')
  afterColon := " "

/-- Parts between brackets, of which those inside stand one level deeper. -/
def enclose (spacing : Spacing) (opening closing : String) (depth : Nat) : List String → String
  | [] => opening ++ closing
  | parts =>
    let inner := spacing.gap (depth + 1)
    opening ++ inner ++ String.intercalate ("," ++ inner) parts ++ spacing.gap depth ++ closing

end Spacing

namespace Value

mutual

/-- The text of a value at a depth of nesting. -/
def write (spacing : Spacing) (depth : Nat) : Value → String
  | .null => "null"
  | .boolean b => if b then "true" else "false"
  | .number n => n.text
  | .text content => quotedContent content
  | .list items => spacing.enclose "[" "]" depth (writeItems spacing (depth + 1) items)
  | .object members =>
    spacing.enclose "\x7b" "\x7d" depth (writeMembers spacing (depth + 1) members)

/-- The texts of the items of a list. -/
def writeItems (spacing : Spacing) (depth : Nat) : List Value → List String
  | [] => []
  | item :: items => write spacing depth item :: writeItems spacing depth items

/-- The texts of the members of an object. -/
def writeMembers (spacing : Spacing) (depth : Nat) :
    List (Option String × Value) → List String
  | [] => []
  | (name, value) :: members =>
    (quotedContent name ++ ":" ++ spacing.afterColon ++ write spacing depth value) ::
      writeMembers spacing depth members

end

def line (value : Value) : String :=
  value.write .tight 0

def pretty (value : Value) : String :=
  value.write .lines 0

end Value

end RowParity.Json
