import RowParity.Proofs.Campaign.Sources
import RowParity.Proofs.Workload.Pieces

/-!
# Operations of a session

A session is worked on by operations: filling the database, adding and changing rows, reading the
schema anew, and panels of checks. They can follow one another in any order, and a failed one does
not keep the next from being done. What the operations keep is told one by one and then for whole
runs of them (`Operation.runAll_keeps`), and so is what they send (`Operation.run_issues`).
-/

namespace RowParity

variable {σ : Type} {x : Executor σ}

inductive Operation where
  | fill (millis : Int)
  | addRow (table : Table)
  | topUp
  | update
  | renew
  | check (panel : Panel)

namespace Operation

/-- Does the operation, and passes over what it came to. -/
def run (x : Executor σ) : Operation → Step σ Unit
  | fill millis => do let _ ← (Action.fillDatabase x millis).result
  | addRow table => do let _ ← (Action.addRow x table).result
  | topUp => do let _ ← (Action.topUp x).result
  | update => do let _ ← (Action.updateRows x).result
  | renew => do let _ ← (Action.renewSchema x).result
  | check panel => do let _ ← (Panel.oracle x).check panel

def runAll (x : Executor σ) : List Operation → Step σ Unit
  | [] => return ()
  | op :: ops => do
    run x op
    runAll x ops

/-- The schemas that the operations start with. -/
def schemas (x : Executor σ) : List Operation → Session σ → List Schema
  | [], _ => []
  | op :: ops, s => s.schema :: schemas x ops (op.run x s).2

/-- Whether the schema is read anew. -/
def renews : Operation → Bool
  | fill _ | renew => true
  | _ => false

def isCheck : Operation → Bool
  | check _ => true
  | _ => false

/-! ## What operations keep -/

section keeping

variable {R : Session σ → Session σ → Prop} (frame : Frame x R)

include frame

theorem run_keeps {op : Operation}
    (hrenew : op.renews = true → (Action.renewSchema x).Within R RunError.IsLoss)
    (hcount : op.isCheck = true → ∀ change, Step.Keeps R (Step.count change)) :
    (op.run x).Keeps R := by
  cases op with
  | fill millis =>
    exact .bind frame.trans (frame.closed.fillDatabase (hrenew rfl) millis).result fun _ =>
      .pure frame.refl ()
  | addRow table =>
    exact .bind frame.trans (frame.closed.addRow table).result fun _ => .pure frame.refl ()
  | topUp => exact .bind frame.trans frame.closed.topUp.result fun _ => .pure frame.refl ()
  | update => exact .bind frame.trans frame.closed.updateRows.result fun _ => .pure frame.refl ()
  | renew => exact .bind frame.trans (hrenew rfl).result fun _ => .pure frame.refl ()
  | check panel =>
    exact .bind frame.trans (frame.panel (hcount rfl) panel) fun _ => .pure frame.refl ()

/-- What every operation keeps, a run of them keeps. -/
theorem runAll_keeps {ops : List Operation}
    (hrenew : (∃ op ∈ ops, op.renews = true) → (Action.renewSchema x).Within R RunError.IsLoss)
    (hcount : (∃ op ∈ ops, op.isCheck = true) → ∀ change, Step.Keeps R (Step.count change)) :
    (runAll x ops).Keeps R := by
  induction ops with
  | nil => exact .pure frame.refl ()
  | cons op ops ih =>
    have hop := run_keeps frame (fun h => hrenew ⟨op, List.mem_cons_self, h⟩)
      fun h => hcount ⟨op, List.mem_cons_self, h⟩
    have hothers := ih (fun ⟨other, hother, h⟩ => hrenew ⟨other, List.mem_cons_of_mem _ hother, h⟩)
      fun ⟨other, hother, h⟩ => hcount ⟨other, List.mem_cons_of_mem _ hother, h⟩
    exact .bind frame.trans hop fun _ => hothers

end keeping

/-! ## The schema -/

theorem run_schema_eq {op : Operation} (h : op.renews = false) (s : Session σ) :
    (op.run x s).2.schema = s.schema :=
  run_keeps (Session.sameSchema_frame x) (fun hrenews => absurd hrenews (by simp [h]))
    (fun _ _ _ => rfl) s

/-- Without a refresh all operations start with the same schema. -/
theorem schemas_eq_of_mem {ops : List Operation} (h : ∀ op ∈ ops, op.renews = false)
    {s : Session σ} : ∀ schema ∈ schemas x ops s, schema = s.schema := by
  induction ops generalizing s with
  | nil => exact List.forall_mem_nil _
  | cons op ops ih =>
    obtain ⟨hfirst, hothers⟩ := List.forall_mem_cons.1 h
    refine List.forall_mem_cons.2 ⟨rfl, fun schema hschema => ?_⟩
    exact (ih hothers schema hschema).trans (run_schema_eq hfirst s)

/-! ## What operations send -/

/-- Whether the operation can send the statement if it starts with the schema. -/
def Sends (schema : Schema) : Operation → String → Prop
  | fill _, sql => Action.Fills sql
  | addRow table, sql => table.YieldsRow sql
  | renew, _ => False
  | topUp, sql | update, sql | check _, sql => schema.Yields sql

theorem run_issues (x : Executor σ) (op : Operation) (s : Session σ) :
    s.Issues (op.Sends s.schema) (op.run x s).2 := by
  cases op with
  | fill millis => exact Action.fillDatabase_issues x millis s
  | addRow table => exact Action.addRow_issues x table s
  | topUp => exact (Action.topUp_drawsOn x s).issued
  | update => exact (Action.updateRows_drawsOn x s).issued
  | renew => exact Action.renewSchema_issues x _ s
  | check panel => exact (Panel.check_drawsOn x panel s).issued

end Operation

end RowParity
