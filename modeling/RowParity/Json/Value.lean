import RowParity.Number.Reading

/-!
# JSON values

Values as they are written: objects keep all their members in order, also several of one name, and
numbers keep their digits. A text can be spelled so that it holds half a surrogate pair; it is then
`none`, since it stands for no characters.
-/

namespace RowParity.Json

/-- A number as it is written. -/
structure Numeral where
  negative : Bool
  whole : List Char
  fraction : List Char
  exponent : Option Int
  deriving DecidableEq, Repr

/-- A JSON value. -/
inductive Value where
  | null
  | boolean (b : Bool)
  | number (n : Numeral)
  | text (content : Option String)
  | list (items : List Value)
  | object (members : List (Option String × Value))
  deriving Repr

namespace Numeral

/-- Whether the number is written with neither fraction nor exponent. -/
def isWhole (n : Numeral) : Bool :=
  n.fraction.isEmpty && n.exponent.isNone

/-- The whole number, if it is written as one and fits 64 bits, with a sign or without. Zero with a
minus sign is left to floating point. -/
def integer? (n : Numeral) : Option Int :=
  let size := Nat.ofDigitChars 10 n.whole 0
  if !n.isWhole then none
  else if n.negative then (if 0 < size ∧ size ≤ Number.twoTo 63 then some (-size) else none)
  else if size < Number.twoTo 64 then some size
  else none

/-- The digits that fit 64 bits, and how many digits were left over. -/
def leading : Nat → List Char → Nat × Nat
  | size, [] => (size, 0)
  | size, c :: cs =>
    let longer := 10 * size + (c.toNat - '0'.toNat)
    if longer < Number.twoTo 64 then leading longer cs else (size, cs.length + 1)

/-- The floating-point number closest to a power of ten. -/
def powerOfTen (k : Nat) : Rat :=
  ((Number.Binary.ofRatio false (Number.tenTo k) 1 : Number.Double).value?).getD 0

/-- Divides by powers of ten, at most `10 ^ 308` at a time, and rounds after each step. -/
def dividedByPower : Nat → Number.Double → Nat → Number.Double
  | 0, x, _ => x
  | fuel + 1, x, k =>
    let step := min k 308
    let quotient := Number.Binary.ofRat ((x.value?.getD 0) / powerOfTen step)
    if k ≤ 308 || quotient.value? = some 0 then quotient
    else dividedByPower fuel quotient (k - 308)

/-- The size of the number in floating point: as many leading digits as fit 64 bits, rounded, and
then scaled by a power of ten, rounded again. The digits of the fraction are fitted in even if some
before the point were left over. There is none if it is too large. -/
def size? (n : Numeral) : Option Number.Double :=
  let (size, restWhole) := leading 0 n.whole
  let (size, restFraction) := leading size n.fraction
  let used := n.fraction.length - restFraction
  let exponent : Int := n.exponent.getD 0 + restWhole - used
  let start : Number.Double := .ofRatio false size 1
  if size = 0 then some start
  else if exponent < 0 then some (dividedByPower 2000 start (-exponent).toNat)
  else if 308 < exponent then none
  else
    let product := Number.Binary.ofRat ((start.value?.getD 0) * powerOfTen exponent.toNat)
    if product.value?.isSome then some product else none

def double? (n : Numeral) : Option Number.Double :=
  n.size?.map fun x => if n.negative then Number.Binary.withSign true x.bits else x

end Numeral

end RowParity.Json
