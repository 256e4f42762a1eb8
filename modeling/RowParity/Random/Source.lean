import RowParity.Number.Binary
import RowParity.Random.Cipher

/-!
# The random source

A source is a key stream and the number of words taken from it, so a run is a function of its seed.
A draw is a function on sources. Ranges are sampled by widening multiplication with at most one
correction, and every range takes at least one word, also a range of one value.
-/

namespace RowParity

/-- A seeded row of random words and how many of them are used up. -/
structure Random.Source where
  seed : UInt64
  key : Random.Key
  drawn : Nat
  deriving DecidableEq, Repr

/-- A computation that takes words from a random source. -/
abbrev Draw (α : Type) := StateM Random.Source α

namespace Random

def Source.ofSeed (seed : UInt64) : Source :=
  ⟨seed, Key.ofSeed seed, 0⟩

/-- The next word, and the source after it. -/
def Source.next (source : Source) : UInt32 × Source :=
  (keyWord source.key source.drawn, { source with drawn := source.drawn + 1 })

def word32 : Draw Nat := fun source =>
  let (w, rest) := source.next
  (w.toNat, rest)

/-- The next 64 random bits, the low half first. -/
def word64 : Draw Nat := do
  let low ← word32
  let high ← word32
  return low + Number.twoTo 32 * high

/-- The widths that ranges are sampled in. -/
inductive Width where
  | narrow
  | wide
  deriving DecidableEq, Repr

def Width.bits : Width → Nat
  | .narrow => 32
  | .wide => 64

def Width.size (w : Width) : Nat := Number.twoTo w.bits

def Width.word : Width → Draw Nat
  | .narrow => word32
  | .wide => word64

/-- The signed value with the given bits. -/
def Width.signed (w : Width) (n : Nat) : Int :=
  if 2 * n < w.size then n else (n : Int) - w.size

/-- A number below `n`, for a positive `n` of the width. -/
def below (w : Width) (n : Nat) : Draw Nat := do
  let product := (← w.word) * n
  let high := product / w.size
  let low := product % w.size
  if w.size - n < low then
    let correction := (← w.word) * n / w.size
    return if w.size ≤ low + correction then high + 1 else high
  else return high

/-- A number of the closed range from `low` to `high`. A range as large as the width is the
width itself. -/
def within (w : Width) (low high : Int) : Draw Int := do
  let count := (high - low + 1).toNat % w.size
  if count = 0 then return w.signed (← w.word)
  else return low + (← below w count)

def int32 : Draw Int := do
  return Width.narrow.signed (← word32)

/-- A 32-bit number between two bounds, which may come in either order. -/
def int32In (a b : Int) : Draw Int :=
  within .narrow (min a b) (max a b)

/-- A 64-bit number between two bounds, which may come in either order. -/
def int64In (a b : Int) : Draw Int :=
  within .wide (min a b) (max a b)

/-- The seed for a source of its own. -/
def freshSeed : Draw UInt64 := do
  return UInt64.ofNat (← word64)

/-- The bound of `double`; it keeps numbers short enough for a decimal column. -/
def doubleBound : Nat := 100000

/-- A floating-point number between `-doubleBound` and `doubleBound`: a fraction of 52 bits,
stretched to the width of the range and then moved, with a rounding after each step. -/
def double : Draw Number.Double := do
  let fraction := (← word64) / Number.twoTo 12
  let stretched : Number.Double := .ofRatio false (fraction * (2 * doubleBound)) (Number.twoTo 52)
  return .ofRat (stretched.value?.getD 0 - doubleBound)

/-- True in `threshold` of `2 ^ 64` cases. -/
def happens (threshold : Nat) : Draw Bool := do
  return (← word64) < threshold

def coin : Draw Bool :=
  happens (Number.twoTo 63)

/-- True with probability `p`, cut to the range from 0 to 1. Certainty takes no word, and neither
does a probability that is no number, which never comes true. -/
def chance (p : Number.Double) : Draw Bool :=
  match p.datum with
  | .nan => return false
  | .infinite negative => if negative then happens 0 else return true
  | .finite .. =>
    let q := p.value?.getD 0
    if 1 ≤ q then return true
    else happens (q * Number.twoTo 64).floor.toNat

/-- A member of the list, all with the same chance; nothing is drawn for an empty list. -/
def choose {α : Type} : List α → Draw (Option α)
  | [] => return none
  | x :: xs => do
    let index ← within .narrow 0 xs.length
    return (x :: xs)[index.toNat]?

/-- The letters of random strings. Quotes and the wildcards of patterns are among them on
purpose. -/
def alphabet : List Char := "abcdefxyzABZ0179 '%_-.,!éß".toList

/-- The largest number of letters of a random string. -/
def maxStringLength : Nat := 20

def letters : Nat → Draw (List Char)
  | 0 => return []
  | n + 1 => do
    let letter ← choose alphabet
    let rest ← letters n
    return letter.toList ++ rest

def shortString : Draw String := do
  let length ← within .narrow 0 maxStringLength
  return String.ofList (← letters length.toNat)

end Random

end RowParity
