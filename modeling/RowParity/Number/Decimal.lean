/-!
# Decimal numerals

Reading and padding of plain digit strings. A numeral is a nonempty run of the digits `0`–`9`;
grouping marks are not part of it.
-/

namespace RowParity.Number

/-- The number that a nonempty run of digits denotes. -/
def readNat? (cs : List Char) : Option Nat :=
  if cs.isEmpty || !cs.all Char.isDigit then none
  else some (Nat.ofDigitChars 10 cs 0)

/-- The number that digits with at most one plus sign in front denote. -/
def readUnsigned? : List Char → Option Nat
  | '+' :: cs => readNat? cs
  | cs => readNat? cs

/-- The number that digits with at most one sign in front denote. -/
def readSigned? : List Char → Option Int
  | '-' :: cs => (readNat? cs).map fun n => -(n : Int)
  | cs => (readUnsigned? cs).map Int.ofNat

/-- The digits of `n` in a base, filled up with zeros in front to the given width. -/
def paddedIn (base width n : Nat) : List Char :=
  let digits := Nat.toDigits base n
  List.replicate (width - digits.length) '0' ++ digits

/-- The decimal digits of `n`, filled up with zeros in front to the given width. -/
def padded (width n : Nat) : List Char :=
  paddedIn 10 width n

end RowParity.Number
