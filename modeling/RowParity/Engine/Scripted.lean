import RowParity.Engine.Probing
import RowParity.Text.Search

/-!
# Scripted engines

An engine that answers by a list of rules, for rehearsing a run without a database. A rule applies
to the statements that hold its fragment, can let some of them pass first, and can be used up. The
names of the tables that were created take the places of the marks `$T0`, `$T1`, … in fragments and
in text cells.
-/

namespace RowParity

namespace Script

/-- The step at which a statement is rejected. -/
inductive Phase where
  | prepare
  | query
  | fetch
  deriving DecidableEq, Repr

inductive Effect where
  | reject (phase : Phase) (text : String)
  /-- The statement is rejected and the connection is gone. -/
  | disconnect (text : String)
  | reply (names : List String) (rows : List Row)
  deriving Repr

structure Rule where
  fragment : String
  /-- How many statements it lets pass first. -/
  skip : Nat := 0
  /-- How often it can still be used, if there is a limit. -/
  times : Option Nat := none
  /-- Whether its use asks the run to stop. -/
  stop : Bool := false
  effect : Effect
  deriving Repr

/-- How many statements can still change the rules: those that a rule lets pass, and its uses if
they have a limit. -/
def Rule.outstanding : List Rule → Nat
  | [] => 0
  | rule :: rules => rule.skip + rule.times.getD 0 + outstanding rules

end Script

/-- A scripted engine and what has happened to it. -/
structure Script where
  rules : List Script.Rule := []
  /-- Why the engine cannot be opened, if it cannot. -/
  openError : Option String := none
  dead : Bool := false
  stopped : Bool := false
  created : List String := []
  /-- The statements that came in, oldest first. -/
  log : Array String := #[]
  deriving Repr

namespace Script

/-- The text with every mark replaced by the table name it stands for, where names are counted from
`i` on. Later marks go first: `$T10` is not `$T1` and a zero. -/
def filled (text : String) : Nat → List String → String
  | _, [] => text
  | i, name :: names => Text.replaced (filled text (i + 1) names) ("$T" ++ toString i) name

/-- The rule that a statement meets, taken out of the rules, and the rules afterwards. -/
def Rule.select (created : List String) (sql : String) : List Rule → Option Rule × List Rule
  | [] => (none, [])
  | rule :: rules =>
    let pass (rule : Rule) :=
      let (found, rest) := select created sql rules
      (found, rule :: rest)
    if !Text.contains sql (filled rule.fragment 0 created) then pass rule
    else if 0 < rule.skip then pass { rule with skip := rule.skip - 1 }
    else
      match rule.times with
      | some 0 => pass rule
      | some (n + 1) => (some rule, { rule with times := some n } :: rules)
      | none => (some rule, rule :: rules)

/-- The table that a statement creates: the word after `CREATE TABLE`. -/
def createdName? (sql : String) : Option String :=
  let opening := "CREATE TABLE ".toList
  if opening.isPrefixOf sql.toList then
    some (String.ofList ((sql.toList.drop opening.length).takeWhile (· != ' ')))
  else none

def filledCell (created : List String) : Cell → Cell
  | .text s => .text (filled s 0 created)
  | cell => cell

/-- The reply of a rule, which may name a table that the same statement creates. -/
def answer (script : Script) (sql : String) (names : List String) (rows : List Row) :
    Except String Reply × Script :=
  let created := script.created ++ (createdName? sql).toList
  (.ok { names, rows := rows.map fun row => row.map (filledCell created) },
    { script with created })

def call (sql : String) : StateM Script (Except String Reply) := fun script =>
  let script := { script with log := script.log.push sql }
  if script.dead then (.error "connection closed", script)
  else
    let (found, rules) := Rule.select script.created sql script.rules
    let script := { script with rules }
    match found with
    | none => script.answer sql [] []
    | some rule =>
      let script := { script with stopped := script.stopped || rule.stop }
      match rule.effect with
      | .reject .fetch text => (.ok { interruption := some text }, script)
      | .reject _ text => (.error text, script)
      | .disconnect text => (.error text, { script with dead := true })
      | .reply names rows => script.answer sql names rows

def engine : Engine Script where
  call := call
  isConnected script := !script.dead

end Script

end RowParity
