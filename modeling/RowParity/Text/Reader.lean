/-!
# Readers

A reader takes characters off the front of a text and gives a value, or gives up. Formats with
nesting bound their recursion by the length of the text, which no nesting can exceed.
-/

namespace RowParity.Text

/-- A computation that takes characters off the front of a text. -/
abbrev Reader (α : Type) := StateT (List Char) Option α

namespace Reader

/-- The value of a reader that takes the whole text. -/
def readAll? {α : Type} (reader : Reader α) (cs : List Char) : Option α :=
  match reader cs with
  | some (a, []) => some a
  | _ => none

def peek? : Reader (Option Char) := fun cs => some (cs.head?, cs)

def next : Reader Char
  | [] => none
  | c :: cs => some (c, cs)

def accept (c : Char) : Reader Bool
  | [] => some (false, [])
  | d :: cs => some (if d = c then (true, cs) else (false, d :: cs))

def expect (c : Char) : Reader Unit := do
  if ← accept c then return () else failure

def takeWhile (test : Char → Bool) : Reader (List Char) := fun cs =>
  some (cs.takeWhile test, cs.dropWhile test)

def acceptText (text : List Char) : Reader Bool := fun cs =>
  some (if text.isPrefixOf cs then (true, cs.drop text.length) else (false, cs))

def expectText (text : List Char) : Reader Unit := do
  if ← acceptText text then return () else failure

def atEnd : Reader Bool := fun cs => some (cs.isEmpty, cs)

end Reader

def hexValue? (c : Char) : Option Nat :=
  if c.isDigit then some (c.toNat - '0'.toNat)
  else if 'a' ≤ c ∧ c ≤ 'f' then some (c.toNat - 'a'.toNat + 10)
  else if 'A' ≤ c ∧ c ≤ 'F' then some (c.toNat - 'A'.toNat + 10)
  else none

/-- Reads that many hexadecimal digits, which follow the digits of `n`. -/
def hexNumber : Nat → Nat → Reader Nat
  | 0, n => return n
  | count + 1, n => do
    match hexValue? (← Reader.next) with
    | some d => hexNumber count (16 * n + d)
    | none => failure

end RowParity.Text
