import RowParity.Document.Tree

/-!
# Paths into a document

A path such as `fuzz.oracles[0]` names a place in a tree: a key, then further keys behind points and
places of lists in brackets. Setting a place makes the tables and lists on the way to it.
-/

namespace RowParity

inductive PathStep where
  | key (name : String)
  /-- A place in a list, counted from the end if negative. -/
  | place (i : Int)
  deriving DecidableEq, Repr

namespace PathStep

/-- Whether the character may stand in a key of a path. -/
def isKeyChar (c : Char) : Bool :=
  c.isAlphanum || c = '_' || c = '-'

/-- Whether the character is a blank within brackets. -/
def isGap (c : Char) : Bool :=
  c = ' ' || c = '\t'

def readPlace? (cs : List Char) : Option Int :=
  (Number.readSigned? cs).filter fun i =>
    decide (-(Number.twoTo 63) ≤ i ∧ i < Number.twoTo 63)

def readMore? : Nat → List Char → Option (List PathStep)
  | _, [] => some []
  | 0, _ => none
  | fuel + 1, '.' :: cs =>
    let name := cs.takeWhile isKeyChar
    if name.isEmpty then none
    else (readMore? fuel (cs.dropWhile isKeyChar)).map (.key (String.ofList name) :: ·)
  | fuel + 1, '[' :: cs =>
    let cs := cs.dropWhile isGap
    let inside := cs.takeWhile fun c => c.isDigit || c = '-'
    match readPlace? inside, (cs.drop inside.length).dropWhile isGap with
    | some i, ']' :: rest => (readMore? fuel rest).map (.place i :: ·)
    | _, _ => none
  | _, _ => none

def read? (s : String) : Option (List PathStep) :=
  let cs := s.toList
  let name := cs.takeWhile isKeyChar
  if name.isEmpty then none
  else (readMore? cs.length (cs.dropWhile isKeyChar)).map (.key (String.ofList name) :: ·)

/-- The path that a name in a settings source stands for. A name that is no path is a key. -/
def ofName (s : String) : List PathStep :=
  (read? s).getD [.key s]

end PathStep

namespace Tree

def items : Tree → List Tree
  | list items => items
  | _ => []

/-- The list with the item at a place changed. The list grows as far as the place is beyond one of
its ends. -/
def updatePlace (i : Int) (change : Tree → Tree) (items : List Tree) : List Tree :=
  if 0 ≤ i then
    let grown := items ++ List.replicate (i.toNat + 1 - items.length) .nil
    grown.modify i.toNat change
  else
    let back := (-i).toNat
    let grown := List.replicate (back - items.length) .nil ++ items
    grown.modify (grown.length - back) change

/-- The tree with the place at the end of a path changed. -/
def updateAt (change : Tree → Tree) : List PathStep → Tree → Tree
  | [], tree => change tree
  | .key name :: path, tree => .table (updateEntry name (updateAt change path) tree.entries)
  | .place i :: path, tree => .list (updatePlace i (updateAt change path) tree.items)

/-- The tree with a value laid over the place that a name stands for. -/
def setNamed (tree : Tree) (name : String) (value : Tree) : Tree :=
  updateAt (fun old => old.overlay value) (PathStep.ofName name) tree

/-- The tree with several named values laid over it in order. -/
def setAll (tree : Tree) (values : List (String × Tree)) : Tree :=
  values.foldl (fun tree entry => tree.setNamed entry.1 entry.2) tree

end Tree

end RowParity
