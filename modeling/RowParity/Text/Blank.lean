/-!
# Blanks and words

A blank is a character of Unicode's `White_Space` class. Texts are lists of characters here;
`words` cuts a text at its blanks and forgets how many there were.
-/

namespace RowParity.Text

def isBlank (c : Char) : Bool :=
  let n := c.toNat
  (0x9 ≤ n && n ≤ 0xD) || n == 0x20 || n == 0x85 || n == 0xA0 || n == 0x1680 ||
    (0x2000 ≤ n && n ≤ 0x200A) || n == 0x2028 || n == 0x2029 || n == 0x202F || n == 0x205F ||
    n == 0x3000

def trimStart (cs : List Char) : List Char :=
  cs.dropWhile isBlank

def trimEnd (cs : List Char) : List Char :=
  (trimStart cs.reverse).reverse

def trim (cs : List Char) : List Char :=
  trimEnd (trimStart cs)

def trimmed (s : String) : String :=
  String.ofList (trim s.toList)

/-- One more character in front of the first of several pieces. -/
def consHead (c : Char) : List (List Char) → List (List Char)
  | [] => [[c]]
  | piece :: pieces => (c :: piece) :: pieces

/-- The pieces between single occurrences of the characters that `cut` accepts, at least one. -/
def splitWhere (cut : Char → Bool) : List Char → List (List Char)
  | [] => [[]]
  | c :: cs => if cut c then [] :: splitWhere cut cs else consHead c (splitWhere cut cs)

/-- The maximal runs of characters that are no blanks. -/
def words (cs : List Char) : List (List Char) :=
  (splitWhere isBlank cs).filter fun piece => !piece.isEmpty

end RowParity.Text
