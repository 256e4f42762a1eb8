import RowParity.Json.Value

/-!
# Records in JSON

How values of other types stand in JSON. A record is an object whose fields may come in any order,
each exactly once and possibly among others; it may also be written as a list of just its fields.
-/

namespace RowParity.Json.Value

/-! ## Reading -/

def text? : Value → Option String
  | .text content => content
  | _ => none

def boolean? : Value → Option Bool
  | .boolean b => some b
  | _ => none

/-- What the items of a list are read as. -/
def listOf? {α : Type} (read : Value → Option α) : Value → Option (List α)
  | .list items => items.mapM read
  | _ => none

def member? (members : List (Option String × Value)) (name : String) : Option Value :=
  match members.filter (·.1 == some name) with
  | [(_, v)] => some v
  | _ => none

/-- The fields of a record in the order of the names. -/
def fields? (names : List String) : Value → Option (List Value)
  | .list items => if items.length = names.length then some items else none
  | .object members =>
    if members.all (·.1.isSome) then names.mapM (member? members) else none
  | _ => none

/-- The name of a case without arguments, which may stand as the only member of an object. -/
def caseName? : Value → Option String
  | .text content => content
  | .object [(name, .null)] => name
  | _ => none

/-! ## Writing -/

def ofText (s : String) : Value := .text (some s)

def ofInt (n : Int) : Value :=
  .number ⟨n < 0, Nat.toDigits 10 n.natAbs, [], none⟩

def ofNat (n : Nat) : Value := ofInt n

def ofOption {α : Type} (write : α → Value) : Option α → Value
  | some a => write a
  | none => .null

def ofList {α : Type} (write : α → Value) (items : List α) : Value :=
  .list (items.map write)

theorem listOf?_ofList {α : Type} {read : Value → Option α} {write : α → Value}
    (h : ∀ a, read (write a) = some a) (items : List α) :
    (ofList write items).listOf? read = some items := by
  simp only [ofList, listOf?]
  induction items with
  | nil => rfl
  | cons a as ih => simp [h, ih]

def record (fields : List (String × Value)) : Value :=
  .object (fields.map fun field => (some field.1, field.2))

end RowParity.Json.Value
