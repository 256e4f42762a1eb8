import RowParity.Json.Value
import RowParity.Text.Reader

/-!
# Reading JSON

The grammar of JSON, with blanks of its own kind around the parts of a value.
-/

namespace RowParity.Json

open Text (Reader)
open Text.Reader

/-- Whether the character may stand between the parts of a value. -/
def isSpace (c : Char) : Bool :=
  c = ' ' || c = '\t' || c = '\n' || c = '\r'

def spaces : Reader Unit := do
  let _ ← takeWhile isSpace

def digits : Reader (List Char) := do
  let ds ← takeWhile Char.isDigit
  if ds.isEmpty then failure else return ds

def numeral : Reader Numeral := do
  let negative ← accept '-'
  let whole ← if ← accept '0' then pure ['0'] else digits
  if whole = ['0'] then
    if let some c ← peek? then
      if c.isDigit then failure
  let fraction ← if ← accept '.' then digits else pure []
  let mark ← peek?
  if mark = some 'e' || mark = some 'E' then
    let _ ← next
    let minus ← accept '-'
    let _ ← if minus then pure true else accept '+'
    let size : Int := Nat.ofDigitChars 10 (← digits) 0
    return ⟨negative, whole, fraction, some (if minus then -size else size)⟩
  else return ⟨negative, whole, fraction, none⟩

/-- The character that a backslash and a letter stand for. -/
def shortEscape? : Char → Option Char
  | '"' => some '"'
  | '\\' => some '\\'
  | '/' => some '/'
  | 'b' => some '\x08'
  | 'f' => some '\x0c'
  | 'n' => some '\n'
  | 'r' => some '\r'
  | 't' => some '\t'
  | _ => none

/-- The rest of a text after its opening quote, as code points, where halves of surrogate pairs
stand on their own. -/
def codePoints : Nat → Reader (List Nat)
  | 0 => failure
  | fuel + 1 => do
    match ← next with
    | '"' => return []
    | '\\' =>
      match ← next with
      | 'u' => return (← Text.hexNumber 4 0) :: (← codePoints fuel)
      | c =>
        match shortEscape? c with
        | some d => return d.toNat :: (← codePoints fuel)
        | none => failure
    | c => if c.toNat < 0x20 then failure else return c.toNat :: (← codePoints fuel)

/-- The characters of code points, with the halves of surrogate pairs joined. -/
def joined? : List Nat → Option (List Char)
  | [] => some []
  | n :: ns =>
    if 0xDC00 ≤ n ∧ n < 0xE000 then none
    else if 0xD800 ≤ n ∧ n < 0xDC00 then
      match ns with
      | m :: ns =>
        if 0xDC00 ≤ m ∧ m < 0xE000 then
          (joined? ns).map (Char.ofNat (0x10000 + (n - 0xD800) * 0x400 + (m - 0xDC00)) :: ·)
        else none
      | [] => none
    else (joined? ns).map (Char.ofNat n :: ·)

/-- The rest of a text after its opening quote. -/
def restOfText (fuel : Nat) : Reader (Option String) := do
  return (joined? (← codePoints fuel)).map String.ofList

mutual

def value : Nat → Reader Value
  | 0 => failure
  | fuel + 1 => do
    match ← peek? with
    | some 'n' => expectText "null".toList; return .null
    | some 't' => expectText "true".toList; return .boolean true
    | some 'f' => expectText "false".toList; return .boolean false
    | some '"' =>
      let _ ← next
      return .text (← restOfText fuel)
    | some '[' =>
      let _ ← next
      spaces
      if ← accept ']' then return .list [] else return .list (← items fuel)
    | some '\x7b' =>
      let _ ← next
      spaces
      if ← accept '\x7d' then return .object [] else return .object (← members fuel)
    | _ => return .number (← numeral)

/-- The items of a list up to its end. -/
def items : Nat → Reader (List Value)
  | 0 => failure
  | fuel + 1 => do
    spaces
    let item ← value fuel
    spaces
    if ← accept ',' then return item :: (← items fuel)
    else
      expect ']'
      return [item]

/-- The members of an object up to its end. -/
def members : Nat → Reader (List (Option String × Value))
  | 0 => failure
  | fuel + 1 => do
    spaces
    expect '"'
    let name ← restOfText fuel
    spaces
    expect ':'
    spaces
    let v ← value fuel
    spaces
    if ← accept ',' then return (name, v) :: (← members fuel)
    else
      expect '\x7d'
      return [(name, v)]

end

def document (fuel : Nat) : Reader Value := do
  spaces
  let v ← value fuel
  spaces
  return v

def Value.read? (s : String) : Option Value :=
  (document (2 * s.length + 2)).readAll? s.toList

end RowParity.Json
