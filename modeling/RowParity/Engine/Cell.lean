import RowParity.Number.Layout
import RowParity.Text.Quoted

/-!
# Cells

The values that an engine answers with. `Cell.plain` is the plain text of a cell in logs and
reports; a compound cell is written in the detailed form, which names its kind and the kinds of all
cells within it.
-/

namespace RowParity

inductive IntegerKind where
  | tinyInt
  | smallInt
  | int
  | bigInt
  | hugeInt
  | uTinyInt
  | uSmallInt
  | uInt
  | uBigInt
  deriving DecidableEq, Repr

def IntegerKind.name : IntegerKind → String
  | tinyInt => "TinyInt"
  | smallInt => "SmallInt"
  | int => "Int"
  | bigInt => "BigInt"
  | hugeInt => "HugeInt"
  | uTinyInt => "UTinyInt"
  | uSmallInt => "USmallInt"
  | uInt => "UInt"
  | uBigInt => "UBigInt"

inductive TimeUnit where
  | second
  | millisecond
  | microsecond
  | nanosecond
  deriving DecidableEq, Repr

def TimeUnit.name : TimeUnit → String
  | second => "Second"
  | millisecond => "Millisecond"
  | microsecond => "Microsecond"
  | nanosecond => "Nanosecond"

/-- A decimal number `coefficient / 10 ^ scale`, written with that many places. -/
structure FixedDecimal where
  coefficient : Int
  scale : Nat
  deriving DecidableEq, Repr

def FixedDecimal.text (d : FixedDecimal) : String :=
  let digits := Number.padded (d.scale + 1) d.coefficient.natAbs
  let point := digits.length - d.scale
  let size := if d.scale = 0 then digits else digits.take point ++ '.' :: digits.drop point
  Number.signText (d.coefficient < 0) ++ String.ofList size

namespace FixedDecimal

/-- The largest number of places of a decimal. -/
def maxScale : Nat := 28

/-- Sizes of decimals stay below this bound. -/
def sizeBound : Nat := Number.twoTo 96

/-- A decimal while its numeral is read. -/
structure Progress where
  size : Nat := 0
  scale : Nat := 0
  started : Bool := false
  inFraction : Bool := false

namespace Progress

/-- With one more digit, whether it fits or not. -/
def push (p : Progress) (digit : Nat) : Progress :=
  { p with
    size := 10 * p.size + digit
    scale := if p.inFraction then p.scale + 1 else 0
    started := true }

/-- Whether size and scale keep to their limits. -/
def fits (p : Progress) : Bool :=
  p.scale ≤ maxScale && p.size < sizeBound

/-- One unit larger if the digit that comes next is at least five. A size that grows out of its
bound gives up a place, which is rounded as well. -/
def rounded? (p : Progress) (next : Nat) : Option Progress :=
  let larger := { p with size := if 5 ≤ next then p.size + 1 else p.size }
  if larger.fits then some larger
  else if p.scale = 0 then none
  else some { p with size := (larger.size + 4) / 10, scale := p.scale - 1 }

/-- Whether the last place is taken. -/
def isFull (p : Progress) : Bool :=
  p.inFraction && p.scale = maxScale

/-- Whether the digits before the last one might leave no room for another in 64 bits. -/
def isLong (p : Progress) : Bool :=
  decide ((Number.twoTo 64 - 1) / 10 - 255 ≤ p.size / 10)

/-- Reads the rest of a numeral. The first digit of the fraction that does not fit rounds, and what
follows it is of no account. Underscores may stand behind the first digit; behind the last place,
only a long numeral goes on after one. -/
def read? (p : Progress) : List Char → Option Progress
  | [] => if p.started then some p else none
  | c :: cs =>
    if c.isDigit then
      let digit := c.toNat - '0'.toNat
      if (p.push digit).fits then read? (p.push digit) cs
      else if p.inFraction then p.rounded? digit
      else none
    else if c = '.' then
      if p.isFull then some p
      else if p.inFraction then none
      else read? { p with inFraction := true } cs
    else if c = '_' && p.started then
      if p.isFull && !p.isLong then some p else read? p cs
    else none

end Progress

/-- Reads a decimal numeral with an optional sign and an optional fraction. -/
def read? (s : String) : Option FixedDecimal :=
  let (negative, cs) :=
    match s.toList with
    | '-' :: cs => (true, cs)
    | '+' :: cs => (false, cs)
    | cs => (false, cs)
  (Progress.read? {} cs).map fun p => ⟨if negative then -p.size else p.size, p.scale⟩

end FixedDecimal

inductive Cell where
  | null
  | boolean (b : Bool)
  | integer (kind : IntegerKind) (n : Int)
  | float (x : Number.Single)
  | double (x : Number.Double)
  | decimal (d : FixedDecimal)
  | text (s : String)
  | timestamp (unit : TimeUnit) (n : Int)
  | time (unit : TimeUnit) (n : Int)
  | date (days : Int)
  | interval (months days nanos : Int)
  | blob (bytes : List Nat)
  | enumeration (s : String)
  | list (cells : List Cell)
  | array (cells : List Cell)
  | struct (fields : List (String × Cell))
  | map (entries : List (Cell × Cell))
  | union (cell : Cell)
  deriving Repr

abbrev Row := List Cell

namespace Cell

def tagged (name : String) (argument : String) : String :=
  name ++ "(" ++ argument ++ ")"

def paired (first second : String) : String :=
  "(" ++ first ++ ", " ++ second ++ ")"

mutual

def detailed : Cell → String
  | null => "Null"
  | boolean b => tagged "Boolean" (if b then "true" else "false")
  | integer kind n => tagged kind.name (toString n)
  | float x => tagged "Float" x.detailed
  | double x => tagged "Double" x.detailed
  | decimal d => tagged "Decimal" d.text
  | text s => tagged "Text" (Text.quoted s)
  | timestamp unit n => "Timestamp" ++ paired unit.name (toString n)
  | time unit n => "Time64" ++ paired unit.name (toString n)
  | date days => tagged "Date32" (toString days)
  | interval months days nanos =>
    "Interval \x7b months: " ++ toString months ++ ", days: " ++ toString days ++ ", nanos: " ++
      toString nanos ++ " \x7d"
  | blob bytes => tagged "Blob" (Text.bracketed (bytes.map toString))
  | enumeration s => tagged "Enum" (Text.quoted s)
  | list cells => tagged "List" (Text.bracketed (detailedAll cells))
  | array cells => tagged "Array" (Text.bracketed (detailedAll cells))
  | struct fields => tagged "Struct" (tagged "OrderedMap" (Text.bracketed (detailedFields fields)))
  | map entries => tagged "Map" (tagged "OrderedMap" (Text.bracketed (detailedEntries entries)))
  | union cell => tagged "Union" (detailed cell)

def detailedAll : List Cell → List String
  | [] => []
  | cell :: cells => detailed cell :: detailedAll cells

def detailedFields : List (String × Cell) → List String
  | [] => []
  | (name, cell) :: fields => paired (Text.quoted name) (detailed cell) :: detailedFields fields

def detailedEntries : List (Cell × Cell) → List String
  | [] => []
  | (key, cell) :: entries => paired (detailed key) (detailed cell) :: detailedEntries entries

end

/-- The cell as it stands in logs and reports. -/
def plain : Cell → String
  | null => "NULL"
  | boolean b => if b then "true" else "false"
  | integer _ n => toString n
  | float x => x.plain
  | double x => x.plain
  | text s => s
  | cell => cell.detailed

def text? : Cell → Option String
  | null => none
  | cell => some cell.plain

/-- The number in a cell of one of the widths that lengths come in. -/
def length? : Cell → Option Int
  | integer .tinyInt n | integer .smallInt n | integer .int n | integer .bigInt n
  | integer .uInt n => some n
  | _ => none

def isTrue : Cell → Bool
  | boolean b => b
  | _ => false

end Cell

namespace Row

/-- The text at a place of the row, if there is one. -/
def text? (row : Row) (i : Nat) : Option String :=
  (row[i]?).bind Cell.text?

/-- The length at a place of the row, if there is one. -/
def length? (row : Row) (i : Nat) : Option Int :=
  (row[i]?).bind Cell.length?

end Row

end RowParity
