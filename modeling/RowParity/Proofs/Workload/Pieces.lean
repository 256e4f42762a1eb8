import RowParity.Proofs.Session.Frame
import RowParity.Workload.Filling
import RowParity.Workload.Mutation

/-!
# The pieces of a workload

Adding rows, topping up, updating and filling a database are put together from a few pieces: draws,
messages, statements whose rejection is passed over, and questions whether a table is empty. A
property that holds of the pieces and is kept by sequencing (`Workload.Closed`) holds of all of it.
The work is walked through here, once for all such properties. Filling a database also reads the
schema anew, so there the property has to hold of that as well.
-/

namespace RowParity

/-- Work that can be done over every executor. -/
abbrev Work (α : Type) : Type 1 :=
  ∀ σ : Type, Executor σ → Action σ α

namespace Workload

/-- The property holds of the pieces of a workload and is kept by sequencing. -/
structure Closed (Holds : ∀ α : Type, Work α → Prop) : Prop where
  pure : ∀ {α : Type} (a : α), Holds α fun _ _ => Pure.pure a
  bind : ∀ {α β : Type} {first : Work α} {next : α → Work β}, Holds α first →
    (∀ a, Holds β (next a)) → Holds β fun σ x => first σ x >>= fun a => next a σ x
  draw : ∀ {α : Type} (d : Draw α), Holds α fun _ _ => Action.draw d
  schema : Holds Schema fun _ _ => Action.schema
  info : ∀ message, Holds Unit fun _ _ => Action.info message
  tryExecute : ∀ sql, Holds Bool fun _ x => Action.tryExecute x sql
  isEmptyTable : ∀ table, Holds Bool fun _ x => Action.isEmptyTable x table

namespace Closed

variable {Holds : ∀ α : Type, Work α → Prop} (closed : Closed Holds)

include closed

/-! ## Rows -/

theorem tryGenerated (d : Draw (Option String)) :
    Holds Bool fun _ x => Action.tryGenerated x d := by
  unfold Action.tryGenerated
  refine closed.bind (closed.draw d) fun sql? => ?_
  cases sql? with
  | none => exact closed.pure false
  | some sql => exact closed.tryExecute sql

theorem addRow (table : Table) : Holds Bool fun _ x => Action.addRow x table := by
  unfold Action.addRow
  refine closed.bind (closed.draw _) fun sql? => ?_
  cases sql? with
  | none => exact closed.pure false
  | some sql =>
    refine closed.bind (closed.tryExecute sql) fun accepted => ?_
    cases accepted with
    | true => exact closed.pure true
    | false => exact closed.tryGenerated _

theorem addRows (table : Table) (n : Nat) : Holds Bool fun _ x => Action.addRows x table n := by
  induction n with
  | zero => exact closed.pure false
  | succ n ih =>
    exact closed.bind (closed.addRow table) fun _ => closed.bind ih fun _ => closed.pure _

theorem topUpTables (tables : List Table) :
    Holds Bool fun _ x => Action.topUpTables x tables := by
  induction tables with
  | nil => exact closed.pure false
  | cons table tables ih =>
    unfold Action.topUpTables
    refine closed.bind (closed.isEmptyTable table) fun isEmpty => ?_
    cases isEmpty with
    | true =>
      exact closed.bind (closed.addRows table _) fun _ => closed.bind ih fun _ => closed.pure _
    | false =>
      exact closed.bind (closed.pure false) fun _ => closed.bind ih fun _ => closed.pure _

theorem topUp : Holds Bool fun _ x => Action.topUp x :=
  closed.bind closed.schema fun _ => closed.topUpTables _

/-! ## Updates -/

theorem updateRows : Holds Bool fun _ x => Action.updateRows x := by
  unfold Action.updateRows
  refine closed.bind closed.schema fun schema => closed.bind (closed.draw _) fun sql? => ?_
  cases sql? with
  | none => exact closed.pure false
  | some sql => exact closed.tryExecute sql

/-! ## Filling -/

theorem createTables (millis : Int) (runId n i : Nat) :
    Holds (List Table) fun _ x => Action.createTables x millis runId n i := by
  induction n generalizing i with
  | zero => exact closed.pure []
  | succ n ih =>
    exact closed.bind (closed.draw _) fun _ => closed.bind (closed.tryExecute _) fun _ =>
      closed.bind (ih (i + 1)) fun _ => closed.pure _

theorem visibleTable (generated : Table) :
    Holds Table fun _ _ => Action.visibleTable generated := by
  unfold Action.visibleTable
  refine closed.bind closed.schema fun schema => ?_
  cases schema.table? generated.name with
  | some table => exact closed.pure table
  | none => exact closed.bind (closed.info _) fun _ => closed.pure generated

theorem seedTables (tables : List Table) : Holds Unit fun _ x => Action.seedTables x tables := by
  induction tables with
  | nil => exact closed.pure ()
  | cons generated others ih =>
    exact closed.bind (closed.visibleTable generated) fun _ => closed.bind (closed.draw _) fun _ =>
      closed.bind (closed.info _) fun _ => closed.bind (closed.addRows _ _) fun _ => ih

theorem fillDatabase (renewSchema : Holds Unit fun _ x => Action.renewSchema x) (millis : Int) :
    Holds (List String) fun _ x => Action.fillDatabase x millis :=
  closed.bind (closed.draw _) fun _ => closed.bind (closed.info _) fun _ =>
    closed.bind (closed.draw _) fun _ => closed.bind (closed.createTables _ _ _ _) fun _ =>
      closed.bind renewSchema fun _ => closed.bind (closed.info _) fun _ =>
        closed.bind (closed.seedTables _) fun _ => closed.bind closed.schema fun _ =>
          closed.bind (closed.info _) fun _ => closed.pure _

end Closed

end Workload

/-! ## Within a frame -/

namespace Frame

variable {σ : Type} {R : Session σ → Session σ → Prop} {x : Executor σ} (frame : Frame x R)

include frame

theorem isEmptyTable (table : Table) :
    (Action.isEmptyTable x table).Within R RunError.IsLoss := by
  unfold Action.isEmptyTable
  refine frame.bind (frame.attemptFetch _) fun answer => ?_
  cases answer with
  | ok rows => exact frame.pure _
  | error e =>
    dsimp only
    split
    · next hlost => exact frame.throw hlost
    · exact frame.bind (frame.exception e _) fun _ => frame.pure false

/-- A workload keeps every frame, and nothing but a lost connection makes it fail. -/
theorem closed :
    Workload.Closed fun _ work => (work σ x).Within R RunError.IsLoss where
  pure := frame.pure
  bind h hnext := frame.bind h hnext
  draw := frame.drawn
  schema := frame.schema
  info := frame.info
  tryExecute := frame.tryExecute
  isEmptyTable := frame.isEmptyTable

end Frame

end RowParity
