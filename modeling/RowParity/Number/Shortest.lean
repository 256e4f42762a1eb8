import RowParity.Number.Binary

/-!
# The fewest digits that read back

Among the decimals that round to a given floating-point number, `shortest` takes one with the
fewest digits, and of those the one closest to the number; halfway between two it takes the larger.
The decimals that round to `significand · 2 ^ exponent` form an interval, which holds its ends
exactly if the significand is even.
-/

namespace RowParity.Number

/-- The positive rationals that round to one number, all over a common denominator. -/
structure Interval where
  low : Nat
  mid : Nat
  high : Nat
  denominator : Nat
  closed : Bool
  deriving Repr

/-- Whether `num / den` lies in the interval. -/
def Interval.holds (i : Interval) (num den : Nat) : Bool :=
  let n := num * i.denominator
  if i.closed then i.low * den ≤ n && n ≤ i.high * den
  else i.low * den < n && n < i.high * den

/-- The decimals that round to `significand · 2 ^ exponent`. The gap below a power of two is half
as wide as the gap above it, unless the numbers below are as sparse. -/
def Interval.around (f : Format) (significand : Nat) (exponent : Int) : Interval :=
  let narrow := significand = twoTo f.fraction ∧ f.lowest < exponent
  let scale (n : Nat) := if 0 ≤ exponent then n * twoTo exponent.toNat else n
  { low := scale (4 * significand - if narrow then 1 else 2)
    mid := scale (4 * significand)
    high := scale (4 * significand + 2)
    denominator := 4 * if 0 ≤ exponent then 1 else twoTo (-exponent).toNat
    closed := significand % 2 == 0 }

/-- Decimal digits with a point: `0.d₁d₂… · 10 ^ point`. -/
structure Digits where
  digits : List Char
  point : Int
  deriving DecidableEq, Repr

/-- The least `point` with `n / d < 10 ^ point`, for a positive ratio, searched from `guess` up. -/
def pointFrom (n d : Nat) : Nat → Int → Int
  | 0, point => point
  | fuel + 1, point =>
    let below := if 0 ≤ point then n < d * tenTo point.toNat else n * tenTo (-point).toNat < d
    if below then point else pointFrom n d fuel (point + 1)

/-- The least `point` with `n / d < 10 ^ point`; a binary logarithm gives it up to two steps. -/
def decimalPoint (n d : Nat) : Int :=
  let guess := ((Nat.log2 n : Int) - (Nat.log2 d : Int) - 1) * 30103 / 100000
  pointFrom n d 5 (guess - 1)

/-- The decimals with `count` digits next to the middle of the interval, if one lies in it. -/
def Interval.onGrid? (i : Interval) (point : Int) (count : Nat) : Option Nat :=
  let place := point - count
  -- In units of `10 ^ place` the middle is `num / den`.
  let (num, den) :=
    if 0 ≤ place then (i.mid, i.denominator * tenTo place.toNat)
    else (i.mid * tenTo (-place).toNat, i.denominator)
  let unit := fun (n : Nat) =>
    if 0 ≤ place then i.holds (n * tenTo place.toNat) 1 else i.holds n (tenTo (-place).toNat)
  let below := num / den
  let above := below + 1
  match unit below, unit above with
  | true, true => some (if 2 * (num % den) < den then below else above)
  | true, false => some below
  | false, true => some above
  | false, false => none

/-- The first grid with a hit, from `count` digits on. -/
def Interval.search (i : Interval) (point : Int) : Nat → Nat → Nat × Int
  | 0, count => (i.mid / i.denominator, point - count)
  | fuel + 1, count =>
    match i.onGrid? point count with
    | some n => (n, point - count)
    | none => i.search point fuel (count + 1)

/-- The digits of `n · 10 ^ place`, without zeros at the end. -/
def Digits.ofScaled (n : Nat) (place : Int) : Digits :=
  let all := Nat.toDigits 10 n
  ⟨(all.reverse.dropWhile (· == '0')).reverse, all.length + place⟩

/-- The shortest digits of the positive number `significand · 2 ^ exponent`. -/
def shortest (f : Format) (significand : Nat) (exponent : Int) : Digits :=
  let i := Interval.around f significand exponent
  let point := decimalPoint i.mid i.denominator
  -- Seventeen digits tell any two numbers of the formats here apart.
  let (n, place) := i.search point 17 1
  Digits.ofScaled n place

end RowParity.Number
