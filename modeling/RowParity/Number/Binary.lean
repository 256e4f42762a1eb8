import RowParity.Number.Power

/-!
# Binary floating point, exactly

A floating-point number is a bit pattern in a binary interchange format. Its value is an exact
rational, and `Format.nearest` rounds a rational to the closest pattern, a half going to the even
neighbour. All arithmetic on such numbers is arithmetic on their values followed by one rounding.
-/

namespace RowParity.Number

/-- A binary interchange format: the stored bits of the significand and of the exponent. -/
structure Format where
  fraction : Nat
  exponent : Nat
  deriving DecidableEq, Repr

namespace Format

def single : Format := ⟨23, 8⟩

def double : Format := ⟨52, 11⟩

/-- The number of bits of a pattern, the sign among them. -/
def width (f : Format) : Nat := f.fraction + f.exponent + 1

/-- The exponent of the last place of the smallest numbers. -/
def lowest (f : Format) : Int := 2 - twoTo (f.exponent - 1) - f.fraction

/-- The pattern of infinity, without its sign. -/
def infinity (f : Format) : Nat := (twoTo f.exponent - 1) * twoTo f.fraction

/-- The pattern of the number that is none, without its sign. -/
def quietNaN (f : Format) : Nat := f.infinity + twoTo (f.fraction - 1)

end Format

/-- What a bit pattern means; a finite one is `significand · 2 ^ exponent` with its sign. -/
inductive Datum where
  | nan
  | infinite (negative : Bool)
  | finite (negative : Bool) (significand : Nat) (exponent : Int)
  deriving DecidableEq, Repr

/-- `n / d` rounded to a whole number, a half going to the even neighbour. -/
def roundHalfEven (n d : Nat) : Nat :=
  let q := n / d
  let rest := 2 * (n % d)
  if rest < d then q
  else if d < rest then q + 1
  else q + q % 2

/-- The numerator and denominator of `n / d · 2 ^ e`. -/
def scaledByPower (n d : Nat) (e : Int) : Nat × Nat :=
  if 0 ≤ e then (n * twoTo e.toNat, d) else (n, d * twoTo (-e).toNat)

namespace Format

/-- The exponent of the last place that numbers near `n / d` are stored with. -/
def lastPlace (f : Format) (n d : Nat) : Int :=
  let guess : Int := (Nat.log2 n : Int) - (Nat.log2 d : Int) - 1 - (f.fraction : Int)
  let (num, den) := scaledByPower n d (-guess)
  let exact := if num / den < twoTo (f.fraction + 1) then guess else guess + 1
  max f.lowest exact

/-- The pattern, without its sign, of the number closest to `n / d`. -/
def nearestRatio (f : Format) (n d : Nat) : Nat :=
  if n = 0 then 0
  else
    let place := f.lastPlace n d
    let (num, den) := scaledByPower n d (-place)
    let bits := (place - f.lowest).toNat * twoTo f.fraction + roundHalfEven num den
    min bits f.infinity

end Format

/-- A floating-point number, as its bit pattern. -/
structure Binary (f : Format) where
  bits : Nat
  deriving DecidableEq, Repr

abbrev Single := Binary .single

abbrev Double := Binary .double

namespace Binary

variable {f : Format}

def withSign (negative : Bool) (magnitude : Nat) : Binary f :=
  ⟨(if negative then twoTo (f.fraction + f.exponent) else 0) + magnitude⟩

def isNegative (x : Binary f) : Bool :=
  x.bits / twoTo (f.fraction + f.exponent) % 2 == 1

def datum (x : Binary f) : Datum :=
  let stored := x.bits % twoTo f.fraction
  let biased := x.bits / twoTo f.fraction % twoTo f.exponent
  if biased = twoTo f.exponent - 1 then
    if stored = 0 then .infinite x.isNegative else .nan
  else if biased = 0 then .finite x.isNegative stored f.lowest
  else .finite x.isNegative (twoTo f.fraction + stored) (f.lowest + biased - 1)

def value? (x : Binary f) : Option Rat :=
  match x.datum with
  | .finite negative significand exponent =>
    let size : Rat := significand * (2 : Rat) ^ exponent
    some (if negative then -size else size)
  | _ => none

/-- The number closest to a ratio, with the given sign. -/
def ofRatio (negative : Bool) (n d : Nat) : Binary f :=
  withSign negative (f.nearestRatio n d)

/-- The number closest to a rational; zero is positive. -/
def ofRat (q : Rat) : Binary f :=
  ofRatio (q < 0) q.num.natAbs q.den

def nan : Binary f := ⟨f.quietNaN⟩

def infinite (negative : Bool) : Binary f := withSign negative f.infinity

end Binary

end RowParity.Number
