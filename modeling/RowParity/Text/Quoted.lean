import RowParity.Text.Hidden

/-!
# Quoted texts

A text between double quotes in which every character shows: the quote and the backslash carry a
backslash, the common controls have short names, and other hidden characters are spelled by their
code point in hexadecimal.
-/

namespace RowParity.Text

def codePointEscape (c : Char) : String :=
  "\\u\x7b" ++ String.ofList (Nat.toDigits 16 c.toNat) ++ "\x7d"

/-- One character as it stands in a quoted text. -/
def quotedChar (c : Char) : String :=
  if c = '\x00' then "\\0"
  else if c = '\t' then "\\t"
  else if c = '\r' then "\\r"
  else if c = '\n' then "\\n"
  else if c = '\\' then "\\\\"
  else if c = '"' then "\\\""
  else if isHidden c then codePointEscape c
  else c.toString

/-- The text between double quotes, with every character visible. -/
def quoted (s : String) : String :=
  "\"" ++ String.join (s.toList.map quotedChar) ++ "\""

/-- Several items between brackets, set apart by commas. -/
def bracketed (items : List String) : String :=
  "[" ++ String.intercalate ", " items ++ "]"

def quotedList (items : List String) : String :=
  bracketed (items.map quoted)

end RowParity.Text
