import RowParity.Text.Case
import RowParity.Text.Search

/-!
# Expected errors

Random queries are sometimes rejected for reasons that say nothing about the engine. Such an error
is known by a fragment of its text, compared in lower case. The first pattern that occurs counts.
-/

namespace RowParity

/-- A fragment of an error text, and why meeting it is of no interest. -/
structure BenignPattern where
  pattern : String
  rationale : String
  deriving DecidableEq, Repr

namespace BenignPattern

def all : List BenignPattern :=
  [⟨"does not exist",
      "query built from a schema snapshot that no longer matches the database"⟩,
    ⟨"already exists", "name reused by an earlier run sharing the database"⟩,
    ⟨"syntax error", "generated text the engine does not accept"⟩,
    ⟨"type mismatch", "literal not comparable with the column type"⟩,
    ⟨"conversion error", "literal could not be cast to the column type"⟩,
    ⟨"could not convert", "literal could not be cast to the column type"⟩,
    ⟨"no function matches", "operator applied to a type it is not defined for"⟩,
    ⟨"not found", "column or table resolved against a stale snapshot"⟩,
    ⟨"invalid", "input rejected by the engine's validation"⟩]

/-- Whether the pattern occurs in a text that is in lower case. -/
def occursIn (p : BenignPattern) (text : List Char) : Bool :=
  Text.occursIn p.pattern.toList text

def classify? (message : String) : Option BenignPattern :=
  let text := Text.lower message.toList
  all.find? (·.occursIn text)

def isExpected (message : String) : Bool :=
  (classify? message).isSome

end BenignPattern

end RowParity
