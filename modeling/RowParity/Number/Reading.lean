import RowParity.Number.Binary
import RowParity.Number.Decimal

/-!
# Reading decimal text as a floating-point number

The text is an optional sign and then a numeral with an optional fraction and an optional decimal
exponent, or one of the names `inf`, `infinity` and `nan` in any case. The result is the number
closest to what the text denotes.
-/

namespace RowParity.Number

/-- A decimal `digits · 10 ^ exponent`. -/
structure Scientific where
  digits : Nat
  exponent : Int
  deriving DecidableEq, Repr

/-- The number of the format closest to a decimal. -/
def Scientific.nearest (f : Format) (negative : Bool) (x : Scientific) : Binary f :=
  -- Beyond these exponents every format here has overflowed or reached zero.
  if x.digits = 0 then Binary.withSign negative 0
  else
    let size : Int := (Nat.toDigits 10 x.digits).length
    if 400 < size + x.exponent then Binary.infinite negative
    else if size + x.exponent < -400 then Binary.withSign negative 0
    else if 0 ≤ x.exponent then Binary.ofRatio negative (x.digits * tenTo x.exponent.toNat) 1
    else Binary.ofRatio negative x.digits (tenTo (-x.exponent).toNat)

/-- The numeral `whole.part` with a decimal exponent; one of the two digit runs may be empty. -/
def scientific? (whole part : List Char) (exponent : Int) : Option Scientific :=
  (readNat? (whole ++ part)).map fun digits => ⟨digits, exponent - part.length⟩

/-- Reads an unsigned decimal: digits, an optional fraction, an optional exponent. -/
def readScientific? (cs : List Char) : Option Scientific :=
  let whole := cs.takeWhile Char.isDigit
  let afterWhole := cs.dropWhile Char.isDigit
  let (part, rest) :=
    match afterWhole with
    | '.' :: more => (more.takeWhile Char.isDigit, more.dropWhile Char.isDigit)
    | _ => ([], afterWhole)
  match rest with
  | [] => scientific? whole part 0
  | e :: more =>
    if e = 'e' || e = 'E' then
      (readSigned? more).bind fun exponent => scientific? whole part exponent
    else none

/-- Reads an unsigned number or one of the names of the infinite and the undefined value. -/
def readMagnitude? (f : Format) (negative : Bool) (cs : List Char) : Option (Binary f) :=
  let name := String.ofList (cs.map Char.toLower)
  if name = "inf" || name = "infinity" then some (Binary.infinite negative)
  else if name = "nan" then some (Binary.withSign negative f.quietNaN)
  else (readScientific? cs).map (·.nearest f negative)

def Binary.read? (f : Format) (s : String) : Option (Binary f) :=
  match s.toList with
  | '-' :: cs => readMagnitude? f true cs
  | '+' :: cs => readMagnitude? f false cs
  | cs => readMagnitude? f false cs

end RowParity.Number
