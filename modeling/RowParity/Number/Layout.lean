import RowParity.Number.Decimal
import RowParity.Number.Shortest

/-!
# Floating-point numbers as text

Three layouts: `plain` writes the shortest digits without an exponent; `detailed` always shows a
point or an exponent and takes the exponent for very large and very small numbers; `fixed` writes
a set number of places, rounded from the exact value.
-/

namespace RowParity.Number

def signText (negative : Bool) : String :=
  if negative then "-" else ""

/-- Digits written out around the decimal point. -/
def Digits.positional (d : Digits) : List Char :=
  if d.point ≤ 0 then
    '0' :: '.' :: (List.replicate (-d.point).toNat '0' ++ d.digits)
  else
    let point := d.point.toNat
    if d.digits.length ≤ point then
      d.digits ++ List.replicate (point - d.digits.length) '0'
    else d.digits.take point ++ '.' :: d.digits.drop point

/-- Digits with one of them before the point, and the decimal exponent. -/
def Digits.exponential (d : Digits) : List Char :=
  let mantissa :=
    match d.digits with
    | [] => ['0']
    | [c] => [c]
    | c :: cs => c :: '.' :: cs
  mantissa ++ 'e' :: (toString (d.point - 1)).toList

namespace Binary

variable {f : Format}

/-- The text of a number that is not finite. -/
def specialText (x : Binary f) : String :=
  match x.datum with
  | .infinite negative => signText negative ++ "inf"
  | _ => "NaN"

/-- The fewest digits that read back, never with an exponent. -/
def plain (x : Binary f) : String :=
  match x.datum with
  | .finite negative 0 _ => signText negative ++ "0"
  | .finite negative significand exponent =>
    signText negative ++ String.ofList (shortest f significand exponent).positional
  | _ => x.specialText

/-- The numbers at and beyond which `detailed` takes an exponent, as the format stores them. -/
def isExtreme (x : Binary f) : Bool :=
  let magnitude := x.bits % twoTo (f.fraction + f.exponent)
  f.nearestRatio (tenTo 16) 1 ≤ magnitude || magnitude < f.nearestRatio 1 (tenTo 4)

/-- The fewest digits that read back, with a point or an exponent. -/
def detailed (x : Binary f) : String :=
  match x.datum with
  | .finite negative 0 _ => signText negative ++ "0.0"
  | .finite negative significand exponent =>
    let d := shortest f significand exponent
    let text := if x.isExtreme then d.exponential else d.positional
    let whole := !x.isExtreme && !text.contains '.'
    signText negative ++ String.ofList (if whole then text ++ ['.', '0'] else text)
  | _ => x.specialText

/-- The exact value rounded to the given number of places, a half to the even neighbour. -/
def fixed (places : Nat) (x : Binary f) : String :=
  match x.datum with
  | .finite negative significand exponent =>
    let (num, den) := scaledByPower (significand * tenTo places) 1 exponent
    let digits := padded (places + 1) (roundHalfEven num den)
    let point := digits.length - places
    signText negative ++ String.ofList (digits.take point ++ '.' :: digits.drop point)
  | _ => x.specialText

/-- The pattern as hexadecimal digits, all of them. -/
def hexadecimal (x : Binary f) : String :=
  String.ofList (paddedIn 16 (f.width / 4) x.bits)

end Binary

end RowParity.Number
