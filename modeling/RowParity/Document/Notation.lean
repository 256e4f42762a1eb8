import RowParity.Json.Reader
import RowParity.Toml.Reader

/-!
# Notations of documents

A document is written in TOML or in JSON. Either way it is a table. Other notations for settings
(YAML, INI, RON, JSON5) are left out: a file with the ending of one of them is as unreadable as one
with an ending that nobody knows.
-/

namespace RowParity

/-! ## JSON as trees -/

/-- How deep the lists and objects of a JSON document may be nested. -/
def maxJsonDepth : Nat := 127

mutual

/-- The tree of a JSON value that is nested at most so deep. Of several members of one name the last
counts. -/
def Tree.ofJson? : Nat → Json.Value → Option Tree
  | _, .null => some .nil
  | _, .boolean b => some (.boolean b)
  | _, .text content => content.map .text
  | _, .number n =>
    match n.integer? with
    | some i => some (.integer i)
    | none => n.double?.map .number
  | 0, .list _ => none
  | depth + 1, .list items => (itemsOfJson? depth items).map .list
  | 0, .object _ => none
  | depth + 1, .object members => (membersOfJson? depth [] members).map .table

def itemsOfJson? : Nat → List Json.Value → Option (List Tree)
  | _, [] => some []
  | depth, item :: items => do
    let tree ← Tree.ofJson? depth item
    return tree :: (← itemsOfJson? depth items)

/-- The trees of the members of an object, after others. -/
def membersOfJson? : Nat → List (String × Tree) → List (Option String × Json.Value) →
    Option (List (String × Tree))
  | _, entries, [] => some entries
  | depth, entries, (name, value) :: members => do
    let tree ← Tree.ofJson? depth value
    membersOfJson? depth (Tree.updateEntry (← name) (fun _ => tree) entries) members

end

/-! ## Notations -/

inductive Notation where
  | toml
  | json
  deriving DecidableEq, Repr

namespace Notation

/-- The notations that are read, in the order in which their endings are tried. -/
def all : List Notation := [toml, json]

theorem mem_all (format : Notation) : format ∈ all := by
  cases format <;> decide

def extension : Notation → String
  | toml => "toml"
  | json => "json"

theorem extension_injective {format format' : Notation} (h : format.extension = format'.extension) :
    format = format' := by
  cases format <;> cases format' <;> first | rfl | exact absurd h (by decide)

/-- The content of a file without a byte order mark in front. -/
def withoutMark (content : String) : String :=
  match content.toList with
  | '\uFEFF' :: cs => String.ofList cs
  | _ => content

/-- Reads a document, which must be a table. A byte order mark may stand before it. -/
def read? (format : Notation) (content : String) : Option Tree :=
  match format with
  | toml => Toml.read? (withoutMark content)
  | json =>
    match (Json.Value.read? (withoutMark content)).bind (Tree.ofJson? maxJsonDepth) with
    | some (.table entries) => some (.table entries)
    | _ => none

end Notation

end RowParity
