import RowParity.Check.Comparison

/-!
# Oracles

An oracle is a machine that checks: from its own state and a shared one it gives a result and the
next states, and it knows the query that it sent last. A suite runs several oracles one after the
other and stops at the first failure. `Panel` is the oracle of a campaign: a single check, or a
suite if several kinds were asked for.
-/

namespace RowParity

/-- A machine that checks, with states `τ`, over a shared state `S`. -/
structure Oracle (S τ : Type) where
  check : τ → StateM S (Except RunError Unit × τ)
  lastQuery : τ → Option String

/-- Several oracles and which of them was run last. -/
structure Suite (τ : Type) where
  members : List τ
  last : Option Nat := none
  deriving Repr

namespace Suite

variable {S τ : Type}

/-- Runs the members in order up to the first failure. The answer is the result, the members
afterwards and how many of them were run. -/
def runMembers (o : Oracle S τ) : List τ → StateM S (Except RunError Unit × List τ × Nat)
  | [] => return (.ok (), [], 0)
  | member :: members => do
    let (result, member) ← o.check member
    match result with
    | .error e => return (.error e, member :: members, 1)
    | .ok () =>
      let (result, members, count) ← runMembers o members
      return (result, member :: members, count + 1)

def check (o : Oracle S τ) (suite : Suite τ) : StateM S (Except RunError Unit × Suite τ) := do
  let (result, members, count) ← runMembers o suite.members
  return (result, ⟨members, if count = 0 then suite.last else some (count - 1)⟩)

def lastQuery (o : Oracle S τ) (suite : Suite τ) : Option String := do
  o.lastQuery (← suite.members[← suite.last]?)

end Suite

def Oracle.suite {S τ : Type} (o : Oracle S τ) : Oracle S (Suite τ) where
  check := Suite.check o
  lastQuery := Suite.lastQuery o

inductive OracleKind where
  /-- Compares a query with its unoptimised form by the number of rows. -/
  | noRec
  deriving DecidableEq, Repr

namespace OracleKind

def all : List OracleKind := [noRec]

def name : OracleKind → String
  | noRec => "norec"

def ofName? (name : String) : Option OracleKind :=
  all.find? (·.name == name)

def requiresRows : OracleKind → Bool
  | noRec => false

def fresh : OracleKind → Check.Memory
  | noRec => none

end OracleKind

/-- The check of a query against its rewritten form, as an oracle. -/
def Check.oracle {σ : Type} (x : Executor σ) : Oracle (Session σ) Check.Memory where
  check memory := do
    let (result, memory) ← Check.run x memory
    return (result.map fun _ => (), memory)
  lastQuery memory := memory

/-- The state of the oracle of a campaign. -/
inductive Panel where
  | alone (memory : Check.Memory)
  | suite (members : Suite Check.Memory)
  deriving Repr

namespace Panel

/-- The fresh oracle for the kinds asked for: the kind itself if it is the only one, the default if
there is none. -/
def ofKinds : List OracleKind → Panel
  | [] => .alone OracleKind.noRec.fresh
  | [kind] => .alone kind.fresh
  | kinds => .suite { members := kinds.map OracleKind.fresh }

def oracle {σ : Type} (x : Executor σ) : Oracle (Session σ) Panel where
  check
    | .alone memory => do
      let (result, memory) ← (Check.oracle x).check memory
      return (result, .alone memory)
    | .suite members => do
      let (result, members) ← (Check.oracle x).suite.check members
      return (result, .suite members)
  lastQuery
    | .alone memory => (Check.oracle x).lastQuery memory
    | .suite members => (Check.oracle x).suite.lastQuery members

end Panel

end RowParity
