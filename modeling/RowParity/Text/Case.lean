import RowParity.Text.CaseTable

/-!
# Upper and lower case

The full Unicode mappings. `upper` works letter by letter; `lower` also looks around a capital
sigma, which becomes `ς` at the end of a word and `σ` elsewhere.
-/

namespace RowParity.Text

/-- The code point that the first matching run gives. -/
def runImage? (runs : List CaseRun) (n : Nat) : Option Nat :=
  runs.findSome? (·.image? n)

def upperChar (c : Char) : List Char :=
  if c.toNat < 0x80 then [c.toUpper]
  else
    match upperExpansions.lookup c.toNat with
    | some codes => codes.map Char.ofNat
    | none => [((runImage? upperRuns c.toNat).map Char.ofNat).getD c]

def upper (cs : List Char) : List Char :=
  cs.flatMap upperChar

/-- The lower case of one character on its own. -/
def lowerChar (c : Char) : List Char :=
  if c.toNat < 0x80 then [c.toLower]
  else if c = '\u0130' then ['i', '\u0307']
  else [((runImage? lowerRuns c.toNat).map Char.ofNat).getD c]

def isCased (c : Char) : Bool :=
  inRanges casedRanges c.toNat

/-- Whether a character is passed over in the search for a cased neighbour. -/
def isCaseIgnorable (c : Char) : Bool :=
  inRanges caseIgnorableRanges c.toNat

/-- Whether the first character that is not passed over has a case. -/
def startsCased (cs : List Char) : Bool :=
  ((cs.dropWhile isCaseIgnorable).head?.map isCased).getD false

/-- The lower case of the text `cs` that follows `before`, which is held back to front. -/
def lowerAfter (before : List Char) : List Char → List Char
  | [] => []
  | c :: cs =>
    let image :=
      if c = 'Σ' then [if startsCased before && !startsCased cs then 'ς' else 'σ']
      else lowerChar c
    image ++ lowerAfter (c :: before) cs

def lower (cs : List Char) : List Char :=
  lowerAfter [] cs

def lowered (s : String) : String :=
  String.ofList (lower s.toList)

end RowParity.Text
