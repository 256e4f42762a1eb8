import RowParity.Number.Layout
import RowParity.Number.Reading

/-!
# Document trees

The common content of settings files: scalars, lists and tables, nested. A tree also says how its
scalars turn into each other: texts are read as numbers and truth values, numbers are rounded.
-/

namespace RowParity

/-- A part of a settings document. -/
inductive Tree where
  | nil
  | boolean (b : Bool)
  | integer (n : Int)
  | number (x : Number.Double)
  | text (s : String)
  | list (items : List Tree)
  | table (entries : List (String × Tree))
  deriving Repr

namespace Tree

def entry? (name : String) (entries : List (String × Tree)) : Option Tree :=
  entries.lookup name

/-- The entries with one changed, or added at the end if there is none of its name. -/
def updateEntry (name : String) (change : Tree → Tree) :
    List (String × Tree) → List (String × Tree)
  | [] => [(name, change .nil)]
  | (key, value) :: entries =>
    if key = name then (key, change value) :: entries
    else (key, value) :: updateEntry name change entries

def entries : Tree → List (String × Tree)
  | table entries => entries
  | _ => []

mutual

/-- The tree `base` with `incoming` laid over it. Tables are merged entry by entry; all else takes
the place of what was there. -/
def overlay (base : Tree) : Tree → Tree
  | .table incoming => .table (overlayEntries base.entries incoming)
  | other => other

def overlayEntries (base : List (String × Tree)) :
    List (String × Tree) → List (String × Tree)
  | [] => base
  | (name, value) :: incoming =>
    overlayEntries (updateEntry name (fun old => overlay old value) base) incoming

end

/-! ## Scalars -/

/-- The letters of a text in lower case, for the words that stand for truth values. -/
def word (s : String) : String :=
  s.map Char.toLower

def truthWord? (s : String) : Option Bool :=
  if word s ∈ ["true", "on", "yes"] then some true
  else if word s ∈ ["false", "off", "no"] then some false
  else none

/-- A number rounded to a whole one, a half away from zero, and cut to 64 bits without a sign. -/
def rounded (x : Number.Double) : Nat :=
  match x.datum with
  | .nan => 0
  | .infinite negative => if negative then 0 else Number.twoTo 64 - 1
  | .finite .. => min (Number.twoTo 64 - 1) (x.value?.getD 0 + 1 / 2).floor.toNat

/-- The scalar as a whole number of 64 bits without a sign. -/
def toWord64? : Tree → Option Nat
  | boolean b => some b.toNat
  | integer n => if 0 ≤ n then some n.toNat else none
  | number x => some (rounded x)
  | text s =>
    match truthWord? s with
    | some b => some b.toNat
    | none => (Number.readUnsigned? s.toList).filter (· < Number.twoTo 64)
  | _ => none

/-- The scalar as a whole number of 32 bits without a sign. -/
def toWord32? (tree : Tree) : Option Nat :=
  tree.toWord64?.filter (· < Number.twoTo 32)

/-- The floating-point number closest to a whole number. -/
def doubleOfInt (n : Int) : Number.Double :=
  .ofRat n

def toDouble? : Tree → Option Number.Double
  | boolean b => some (doubleOfInt b.toNat)
  | integer n => some (doubleOfInt n)
  | number x => some x
  | text s =>
    match truthWord? s with
    | some b => some (doubleOfInt b.toNat)
    | none => Number.Binary.read? .double s
  | _ => none

def toBoolean? : Tree → Option Bool
  | boolean b => some b
  | integer n => some (n != 0)
  | number x => some (x.value? != some 0)
  | text s =>
    if s = "1" then some true
    else if s = "0" then some false
    else truthWord? s
  | _ => none

def toText? : Tree → Option String
  | boolean b => some (if b then "true" else "false")
  | integer n => some (toString n)
  | number x => some x.plain
  | text s => some s
  | _ => none

end Tree

end RowParity
