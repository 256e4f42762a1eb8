import RowParity.Toml.Scalar

/-!
# Reading TOML

A document is a row of lines: key and value, or the header of a table or of an item of a list of
tables. Every table is defined once: a header or a dotted key may still claim a table that was only
passed through on the way to another one, a dotted key may add to tables that dotted keys made or
claimed and to what is inside the last table of a list, and an inline value is closed.
-/

namespace RowParity.Toml

open Text (Reader)
open Text.Reader

/-- How a table came about. -/
inductive Origin where
  | passed
  | header
  /-- By a dotted key, or claimed by one. -/
  | dotted
  deriving DecidableEq, Repr

inductive Node where
  /-- A value that nothing can be added to. -/
  | closed (tree : Tree)
  | table (origin : Origin) (entries : List (String × Node))
  /-- A list of tables, the last of which can be added to. -/
  | tables (items : List (List (String × Node)))

/-- The entries of a table while its document is read. -/
abbrev Entries := List (String × Node)

mutual

def Node.tree : Node → Tree
  | .closed tree => tree
  | .table _ entries => .table (entryTrees entries)
  | .tables items => .list (itemTrees items)

def entryTrees : List (String × Node) → List (String × Tree)
  | [] => []
  | (name, node) :: entries => (name, node.tree) :: entryTrees entries

def itemTrees : List (List (String × Node)) → List Tree
  | [] => []
  | entries :: items => .table (entryTrees entries) :: itemTrees items

end

/-- The entries with the one of that name changed, where `none` stands for a missing one. -/
def changeEntry (name : String) (change : Option Node → Option Node) : Entries → Option Entries
  | [] => (change none).map fun node => [(name, node)]
  | (key, node) :: entries =>
    if key = name then (change (some node)).map fun node => (key, node) :: entries
    else (changeEntry name change entries).map ((key, node) :: ·)

/-- The list with a change of its last item. -/
def changeLast {α : Type} (change : α → Option α) : List α → Option (List α)
  | [] => none
  | [a] => (change a).map fun a => [a]
  | a :: as => (changeLast change as).map (a :: ·)

/-- Changes the entries of the table that a header path passes through. -/
def passThrough (change : Entries → Option Entries) : Option Node → Option Node
  | none => (change []).map (.table .passed)
  | some (.table origin entries) => (change entries).map (.table origin)
  | some (.tables items) => (changeLast change items).map .tables
  | some (.closed _) => none

/-- Changes the entries at the end of a header path. -/
def changeAt (change : Entries → Option Entries) : List String → Entries → Option Entries
  | [], entries => change entries
  | name :: path, entries => changeEntry name (passThrough (changeAt change path)) entries

/-- Changes the entries of a table that a dotted key passes through. A table that a header defined
cannot be passed. A list of tables leads into its last one, unless the value is to stand right
there. -/
def dotThrough (isLast : Bool) (change : Entries → Option Entries) : Option Node → Option Node
  | none => (change []).map (.table .dotted)
  | some (.table .header _) => none
  | some (.table _ entries) => (change entries).map (.table .dotted)
  | some (.tables items) => if isLast then none else (changeLast change items).map .tables
  | some (.closed _) => none

def addValue (value : Node) : List String → Entries → Option Entries
  | [], _ => none
  | [name], entries =>
    changeEntry name (fun old => if old.isNone then some value else none) entries
  | name :: path, entries =>
    changeEntry name (dotThrough (path.length = 1) (addValue value path)) entries

def claimTable : Option Node → Option Node
  | none => some (.table .header [])
  | some (.table .passed entries) => some (.table .header entries)
  | _ => none

def appendTable : Option Node → Option Node
  | none => some (.tables [[]])
  | some (.tables items) => some (.tables (items ++ [[]]))
  | _ => none

def changeHeader (change : Option Node → Option Node) (path : List String) (root : Entries) :
    Option Entries :=
  match path.getLast? with
  | none => none
  | some name => changeAt (changeEntry name change) path.dropLast root

/-! ## Values -/

/-- How deep lists and inline tables may be nested. -/
def maxDepth : Nat := 80

mutual

/-- A value in which lists and inline tables are nested at most `depth` deep. -/
def value (depth : Nat) : Nat → Reader Tree
  | 0 => failure
  | fuel + 1 => do
    match ← string? fuel with
    | some s => return .text s
    | none =>
      if ← accept '[' then
        if depth = 0 then failure
        blankLines fuel
        if ← accept ']' then return .list [] else return .list (← items (depth - 1) fuel)
      else if ← accept '\x7b' then
        if depth = 0 then failure
        blankLines fuel
        if ← accept '\x7d' then return .table []
        else return .table (entryTrees (← members (depth - 1) fuel []))
      else scalar

/-- The items of a list up to its end. A comma may stand behind the last one. -/
def items (depth : Nat) : Nat → Reader (List Tree)
  | 0 => failure
  | fuel + 1 => do
    let item ← value depth fuel
    blankLines fuel
    if ← accept ',' then
      blankLines fuel
      if ← accept ']' then return [item] else return item :: (← items depth fuel)
    else
      expect ']'
      return [item]

/-- The entries of an inline table up to its end, after others. It may go on over several lines, and
a comma may stand behind the last entry. -/
def members (depth : Nat) : Nat → Entries → Reader Entries
  | 0, _ => failure
  | fuel + 1, entries => do
    let path ← key fuel
    blankLines fuel
    expect '='
    blankLines fuel
    let tree ← value depth fuel
    let entries ← addValue (.closed tree) path entries
    blankLines fuel
    if ← accept ',' then
      blankLines fuel
      if ← accept '\x7d' then return entries else members depth fuel entries
    else
      expect '\x7d'
      return entries

end

/-! ## Lines -/

/-- One line: what it makes of the document and of the path of the current table. -/
def line (fuel : Nat) (current : List String) (root : Entries) :
    Reader (List String × Entries) := do
  if ← acceptText "[[".toList then
    let path ← key fuel
    expectText "]]".toList
    return (path, ← changeHeader appendTable path root)
  else if ← accept '[' then
    let path ← key fuel
    expect ']'
    return (path, ← changeHeader claimTable path root)
  else
    let path ← key fuel
    expect '='
    gap
    let tree ← value maxDepth fuel
    return (current, ← changeAt (addValue (.closed tree) path) current root)

def lines : Nat → List String → Entries → Reader Entries
  | 0, _, _ => failure
  | fuel + 1, current, root => do
    blankLines fuel
    if ← atEnd then return root
    else
      let (current, root) ← line fuel current root
      lineEnd
      lines fuel current root

/-- A document, which a byte order mark may come before. -/
def document (fuel : Nat) : Reader Tree := do
  let _ ← accept '\uFEFF'
  return .table (entryTrees (← lines fuel [] []))

def read? (s : String) : Option Tree :=
  (document (2 * s.length + 3)).readAll? s.toList

end RowParity.Toml
