import RowParity.Calendar
import RowParity.Document.Tree
import RowParity.Text.Reader

/-!
# TOML keys and scalars

Strings in four notations, numbers in four bases, floating-point numbers, truth values and points
in time. A point in time becomes a text in its usual form.
-/

namespace RowParity.Toml

open Text (Reader)
open Text.Reader

/-! ## Blanks and comments -/

/-- Whether the character is a blank within a line. -/
def isGap (c : Char) : Bool :=
  c = ' ' || c = '\t'

def gap : Reader Unit := do
  let _ ← takeWhile isGap

/-- Whether the character may stand in a comment or a string of one line. -/
def isPlain (c : Char) : Bool :=
  c = '\t' || (0x20 ≤ c.toNat && c.toNat != 0x7F)

/-- Takes the end of a line if it is next, and gives it as it is written. -/
def newline : Reader (List Char) := do
  if ← accept '\n' then return ['\n']
  else if ← acceptText ['\r', '\n'] then return ['\r', '\n']
  else return []

def acceptNewline : Reader Bool :=
  return !(← newline).isEmpty

def comment : Reader Unit := do
  if ← accept '#' then
    let _ ← takeWhile isPlain

/-- The end of a line after its content: blanks, a comment, and a line break or the end. -/
def lineEnd : Reader Unit := do
  gap
  comment
  if ← atEnd then return ()
  else if ← acceptNewline then return ()
  else failure

def blankLines : Nat → Reader Unit
  | 0 => return ()
  | fuel + 1 => do
    gap
    comment
    if ← acceptNewline then blankLines fuel else return ()

/-! ## Strings -/

/-- The character with a code point that is not half of a surrogate pair. -/
def scalarValue? (n : Nat) : Option Char :=
  if h : n.isValidChar then some (Char.ofNatAux n h) else none

def escape : Reader Char := do
  match ← next with
  | 'b' => return '\x08'
  | 't' => return '\t'
  | 'n' => return '\n'
  | 'f' => return '\x0c'
  | 'r' => return '\r'
  | 'e' => return '\x1b'
  | '"' => return '"'
  | '\\' => return '\\'
  | 'x' => return ← scalarValue? (← Text.hexNumber 2 0)
  | 'u' => return ← scalarValue? (← Text.hexNumber 4 0)
  | 'U' => return ← scalarValue? (← Text.hexNumber 8 0)
  | _ => failure

/-- The rest of a string with escapes on one line. -/
def basicRest : Nat → Reader (List Char)
  | 0 => failure
  | fuel + 1 => do
    match ← next with
    | '"' => return []
    | '\\' => return (← escape) :: (← basicRest fuel)
    | c => if isPlain c then return c :: (← basicRest fuel) else failure

/-- The rest of a string without escapes on one line. -/
def literalRest : Reader (List Char) := do
  let cs ← takeWhile fun c => isPlain c && c != '\x27'
  expect '\x27'
  return cs

/-- The quotes at the end of a string of several lines: three that close it after at most two that
belong to it. If there are fewer than three, they all belong to it. -/
def closingQuotes (mark : Char) : Reader (List Char × Bool) := do
  let marks ← takeWhile (· = mark)
  if marks.length < 3 then return (marks, false)
  else if marks.length ≤ 5 then return (marks.drop 3, true)
  else failure

/-- Takes a blank or a line break if one is next. -/
def acceptSpace : Reader Bool := do
  if (← takeWhile isGap).isEmpty then acceptNewline else return true

def spaces : Nat → Reader Unit
  | 0 => return ()
  | fuel + 1 => do
    if ← acceptSpace then spaces fuel else return ()

/-- What follows a backslash in a string of several lines: an escape, or blanks up to the end of the
line and all blank space after that, which stand for nothing. -/
def multilineEscape (fuel : Nat) : Reader (List Char) := do
  let ahead ← get
  match ahead.dropWhile isGap with
  | '\n' :: _ | '\r' :: '\n' :: _ =>
    spaces fuel
    return []
  | _ => return [← escape]

/-- The rest of a string of several lines, where line breaks stay as they are written; `escapes`
says whether backslashes are special. -/
def multilineRest (mark : Char) (escapes : Bool) : Nat → Reader (List Char)
  | 0 => failure
  | fuel + 1 => do
    let lineBreak ← newline
    if !lineBreak.isEmpty then
      return lineBreak ++ (← multilineRest mark escapes fuel)
    match ← peek? with
    | none => failure
    | some c =>
      if c = mark then
        let (marks, closed) ← closingQuotes mark
        if closed then return marks
        else return marks ++ (← multilineRest mark escapes fuel)
      else if c = '\\' && escapes then
        let _ ← next
        let cs ← multilineEscape fuel
        return cs ++ (← multilineRest mark escapes fuel)
      else if isPlain c then
        let _ ← next
        return c :: (← multilineRest mark escapes fuel)
      else failure

/-- A string of several lines after its opening quotes. A line break right there is left out. -/
def multiline (mark : Char) (escapes : Bool) (fuel : Nat) : Reader String := do
  let _ ← acceptNewline
  return String.ofList (← multilineRest mark escapes fuel)

def lineString? (fuel : Nat) : Reader (Option String) := do
  if ← accept '"' then return some (String.ofList (← basicRest fuel))
  else if ← accept '\x27' then return some (String.ofList (← literalRest))
  else return none

def string? (fuel : Nat) : Reader (Option String) := do
  if ← acceptText "\"\"\"".toList then return some (← multiline '"' true fuel)
  else if ← acceptText "\x27\x27\x27".toList then return some (← multiline '\x27' false fuel)
  else lineString? fuel

/-! ## Keys -/

def isBareKeyChar (c : Char) : Bool :=
  c.isAlphanum || c = '_' || c = '-'

def simpleKey (fuel : Nat) : Reader String := do
  match ← lineString? fuel with
  | some s => return s
  | none =>
    let cs ← takeWhile isBareKeyChar
    if cs.isEmpty then failure else return String.ofList cs

def keyParts : Nat → Reader (List String)
  | 0 => failure
  | fuel + 1 => do
    gap
    let first ← simpleKey fuel
    gap
    if ← accept '.' then return first :: (← keyParts fuel) else return [first]

def maxKeyParts : Nat := 80

def key (fuel : Nat) : Reader (List String) := do
  let parts ← keyParts fuel
  if maxKeyParts < parts.length then failure else return parts

/-! ## Numbers, truth values and points in time -/

/-- The digits of a text in which single underscores may stand between digits. -/
def withoutUnderscores? (isDigit : Char → Bool) : List Char → Option (List Char)
  | [] => none
  | [c] => if isDigit c then some [c] else none
  | c :: '_' :: d :: cs =>
    if isDigit c && isDigit d then
      (withoutUnderscores? isDigit (d :: cs)).map (c :: ·)
    else none
  | c :: cs => if isDigit c then (withoutUnderscores? isDigit cs).map (c :: ·) else none

def ofDigits (base : Nat) (cs : List Char) : Nat :=
  cs.foldl (fun n c => base * n + (Text.hexValue? c).getD 0) 0

/-- A whole number, if it fits 64 bits with a sign. -/
def int64? (n : Int) : Option Tree :=
  if -(Number.twoTo 63) ≤ n ∧ n < Number.twoTo 63 then some (.integer n) else none

/-- A whole number in the base that a mark names. -/
def basedInteger? (base : Nat) (cs : List Char) : Option Tree := do
  let isDigit := fun c => ((Text.hexValue? c).map (decide <| · < base)).getD false
  int64? (ofDigits base (← withoutUnderscores? isDigit cs))

/-- The digits of a numeral that does not start with a superfluous zero. -/
def wholeDigits? (cs : List Char) : Option (List Char) := do
  let ds ← withoutUnderscores? Char.isDigit cs
  if ds.head? = some '0' && 1 < ds.length then none else some ds

/-- A floating-point number; one that is too large is refused. -/
def float? (negative : Bool) (cs : List Char) : Option Tree := do
  let whole := cs.takeWhile fun c => c.isDigit || c = '_'
  let rest := cs.drop whole.length
  let (part, rest) ←
    match rest with
    | '.' :: more =>
      let part := more.takeWhile fun c => c.isDigit || c = '_'
      (withoutUnderscores? Char.isDigit part).map fun ds => (ds, more.drop part.length)
    | _ => some ([], rest)
  let exponent ←
    match rest with
    | [] => some 0
    | e :: '-' :: more =>
      if e = 'e' || e = 'E' then
        (withoutUnderscores? Char.isDigit more).map fun ds => -(ofDigits 10 ds : Int)
      else none
    | e :: '+' :: more =>
      if e = 'e' || e = 'E' then
        (withoutUnderscores? Char.isDigit more).map fun ds => (ofDigits 10 ds : Int)
      else none
    | e :: more =>
      if e = 'e' || e = 'E' then
        (withoutUnderscores? Char.isDigit more).map fun ds => (ofDigits 10 ds : Int)
      else none
  let decimal ← Number.scientific? (← wholeDigits? whole) part exponent
  let x := decimal.nearest .double negative
  if x = Number.Binary.infinite negative then none else some (.number x)

def unsigned? (negative : Bool) (cs : List Char) : Option Tree :=
  if cs = "inf".toList then some (.number (Number.Binary.infinite negative))
  else if cs = "nan".toList then
    some (.number (Number.Binary.withSign negative Number.Format.double.quietNaN))
  else
    match wholeDigits? cs with
    | some ds =>
      let n : Int := ofDigits 10 ds
      int64? (if negative then -n else n)
    | none => float? negative cs

/-- A number. A base is named only where there is no sign. -/
def number? : List Char → Option Tree
  | '0' :: 'x' :: cs => basedInteger? 16 cs
  | '0' :: 'o' :: cs => basedInteger? 8 cs
  | '0' :: 'b' :: cs => basedInteger? 2 cs
  | '-' :: cs => unsigned? true cs
  | '+' :: cs => unsigned? false cs
  | cs => unsigned? false cs

def fixedDigits (count : Nat) : Reader Nat := fun cs =>
  (Number.readNat? (cs.take count)).bind fun n =>
    if (cs.take count).length = count then some (n, cs.drop count) else none

def day : Reader (List Char) := do
  let year ← fixedDigits 4
  expect '-'
  let month ← fixedDigits 2
  expect '-'
  let date ← Date.ofParts? year month (← fixedDigits 2)
  return date.text.toList

/-- The part of a second as written in texts: up to nine digits, without zeros at the end, but at
least one digit. -/
def secondPart (ds : List Char) : List Char :=
  let kept := (ds.take 9).reverse.dropWhile (· == '0')
  '.' :: if kept.isEmpty then ['0'] else kept.reverse

/-- The seconds of a time of day, which a part of a second may follow, if they are next. -/
def seconds : Reader (List Char) := do
  if !(← accept ':') then return []
  let second ← fixedDigits 2
  if 60 < second then failure
  let whole := ':' :: Number.padded 2 second
  if !(← accept '.') then return whole
  let part ← takeWhile Char.isDigit
  if part.isEmpty then failure
  return whole ++ secondPart part

/-- A time of day, to the minute or finer. -/
def clockTime : Reader (List Char) := do
  let hour ← fixedDigits 2
  expect ':'
  let minute ← fixedDigits 2
  if 23 < hour || 59 < minute then failure
  return Number.padded 2 hour ++ ':' :: Number.padded 2 minute ++ (← seconds)

/-- A distance from universal time, if one is next. No distance is written with a plus. -/
def zone : Reader (List Char) := do
  match ← peek? with
  | some c =>
    if c = 'Z' || c = 'z' then
      let _ ← next
      return ['Z']
    else if c = '+' || c = '-' then
      let _ ← next
      let hour ← fixedDigits 2
      expect ':'
      let minute ← fixedDigits 2
      if 23 < hour || 59 < minute then failure
      let sign := if hour = 0 && minute = 0 then '+' else c
      return sign :: (Number.padded 2 hour ++ ':' :: Number.padded 2 minute)
    else return []
  | none => return []

/-- A point in time: a time of day, or a day, which a time and a distance from universal time may
follow. -/
def moment : Reader (List Char) := do
  let ahead ← get
  if ahead[2]? = some ':' then clockTime
  else
    let date ← day
    let behind ← get
    match behind with
    | c :: d :: _ =>
      if c = 'T' || c = 't' || (c = ' ' && d.isDigit) then
        let _ ← next
        let time ← clockTime
        let offset ← zone
        return date ++ 'T' :: time ++ offset
      else return date
    | _ => return date

/-- Whether a scalar that starts like this is a point in time. -/
def startsMoment (cs : List Char) : Bool :=
  match cs with
  | a :: b :: ':' :: _ => a.isDigit && b.isDigit
  | a :: b :: c :: d :: '-' :: _ => a.isDigit && b.isDigit && c.isDigit && d.isDigit
  | _ => false

/-- Whether the character may stand in a number or a truth value. -/
def isScalarChar (c : Char) : Bool :=
  c.isAlphanum || c = '_' || c = '-' || c = '+' || c = '.'

def scalar : Reader Tree := do
  if startsMoment (← get) then return .text (String.ofList (← moment))
  else
    let cs ← takeWhile isScalarChar
    if cs = "true".toList then return .boolean true
    else if cs = "false".toList then return .boolean false
    else return ← number? cs

end RowParity.Toml
