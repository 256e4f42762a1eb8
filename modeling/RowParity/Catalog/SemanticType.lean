import RowParity.Text.Blank
import RowParity.Text.Case
import RowParity.Text.Search

/-!
# Semantic types

A column is declared with free text such as `DECIMAL(10, 2)`. `SemanticType.ofDeclared` sorts every
such text into one of sixteen types: by the longest type name that occurs in it outside parentheses,
else by a few telling fragments, else as `VARCHAR`.
-/

namespace RowParity

/-- What a column holds, as far as generated statements care. -/
inductive SemanticType where
  | integer
  | smallInt
  | bigInt
  | double
  | float
  | real
  | decimal
  | numeric
  | varchar
  | char
  | date
  | time
  | timestamp
  | boolean
  | blob
  | clob
  deriving DecidableEq, Repr

namespace SemanticType

def all : List SemanticType :=
  [integer, smallInt, bigInt, double, float, real, decimal, numeric, varchar, char, date, time,
    timestamp, boolean, blob, clob]

def sqlName : SemanticType → String
  | integer => "INTEGER"
  | smallInt => "SMALLINT"
  | bigInt => "BIGINT"
  | double => "DOUBLE"
  | float => "FLOAT"
  | real => "REAL"
  | decimal => "DECIMAL"
  | numeric => "NUMERIC"
  | varchar => "VARCHAR"
  | char => "CHAR"
  | date => "DATE"
  | time => "TIME"
  | timestamp => "TIMESTAMP"
  | boolean => "BOOLEAN"
  | blob => "BLOB"
  | clob => "CLOB"

def storedName : SemanticType → String
  | integer => "Integer"
  | smallInt => "SmallInt"
  | bigInt => "BigInt"
  | double => "Double"
  | float => "Float"
  | real => "Real"
  | decimal => "Decimal"
  | numeric => "Numeric"
  | varchar => "Varchar"
  | char => "Char"
  | date => "Date"
  | time => "Time"
  | timestamp => "Timestamp"
  | boolean => "Boolean"
  | blob => "Blob"
  | clob => "Clob"

def ofStoredName? (name : String) : Option SemanticType :=
  all.find? (·.storedName == name)

def isNumeric : SemanticType → Bool
  | integer | smallInt | bigInt | double | float | real | decimal | numeric => true
  | _ => false

def isTextual : SemanticType → Bool
  | varchar | char => true
  | _ => false

/-- The types with a name of their own, longer names first, so that `TIMESTAMP` is seen before the
`TIME` within it. -/
def named : List SemanticType :=
  [timestamp, smallInt, integer, decimal, numeric, varchar, boolean, bigInt, double, float, real,
    char, date, time, blob, clob]

/-- Fragments that decide where no full name occurs, in order. -/
def fragments : List (String × SemanticType) :=
  [("INT", integer), ("DEC", decimal), ("BOOL", boolean), ("CHAR", varchar), ("TEXT", varchar)]

def rules : List (String × SemanticType) :=
  named.map (fun ty => (ty.sqlName, ty)) ++ fragments

/-- The characters outside parentheses. A closing parenthesis that none opened counts for
nothing. -/
def outsideParens : Nat → List Char → List Char
  | _, [] => []
  | depth, c :: cs =>
    if c = '(' then outsideParens (depth + 1) cs
    else if c = ')' then outsideParens (depth - 1) cs
    else if depth = 0 then c :: outsideParens 0 cs
    else outsideParens depth cs

/-- The declared text without parenthesised groups and the blanks around the rest. -/
def withoutModifiers (declared : String) : List Char :=
  Text.trim (outsideParens 0 declared.toList)

/-- The text that type names are looked for in. -/
def normalized (declared : String) : List Char :=
  Text.upper (withoutModifiers declared)

/-- The type of a declared text. Every text has one. -/
def ofDeclared (declared : String) : SemanticType :=
  let text := normalized declared
  match rules.find? fun rule => Text.occursIn rule.1.toList text with
  | some rule => rule.2
  | none => varchar

end SemanticType

end RowParity
