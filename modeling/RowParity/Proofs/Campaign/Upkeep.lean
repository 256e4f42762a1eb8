import RowParity.Campaign
import RowParity.Proofs.Check.Course
import RowParity.Proofs.Session.Refresh
import RowParity.Proofs.Workload.Pieces

/-!
# What the work on a database keeps

Checks, panels and rounds are walked through here once for all relations between sessions that they
may keep (`Check.run_keeps`, `Panel.check_keeps`, `Campaign.rounds_keeps_of`). So whatever a session
keeps over statements, queries, draws and reports (`Frame`), and over counting, it keeps over checks
and panels; with refreshes of the schema and looks at the budget it keeps it over all work on a
database. One such thing is a property of the engine that no call to it takes away
(`Executor.Maintains`).
-/

namespace RowParity

variable {σ : Type}

section walks

variable {x : Executor σ} {R : Session σ → Session σ → Prop} (hrefl : ∀ s, R s s)
  (htrans : ∀ a b c, R a b → R b c → R a c)

include hrefl htrans

/-! ## Checks -/

section checks

variable (hreport : ∀ event : Event, event.query? = none → Step.Keeps R (Step.report event))
  (hcount : ∀ change, Step.Keeps R (Step.count change))

include hreport hcount

omit hrefl in
theorem Check.record_keeps (outcome : Outcome) : Step.Keeps R (Check.record outcome) := by
  cases outcome with
  | pass rows => exact .bind htrans (hcount _) fun _ => hreport _ rfl
  | mismatch f => exact .bind htrans (hreport _ rfl) fun _ => hcount _
  | expectedError message pattern => exact .bind htrans (hcount _) fun _ => hreport _ rfl

theorem Check.settle_keeps (memory : Check.Memory) (result : Except RunError Outcome) :
    Step.Keeps R (Check.settle memory result) := by
  have hrecord := Check.record_keeps htrans hreport hcount
  cases result with
  | ok outcome => exact .bind htrans (hrecord outcome) fun _ => .pure hrefl _
  | error e =>
    unfold Check.settle
    dsimp only
    split
    · exact .bind htrans (hrecord _) fun _ => .pure hrefl _
    · cases e.isDisconnect with
      | true => exact .pure hrefl _
      | false => exact .bind htrans (hreport _ rfl) fun _ => .pure hrefl _

/-- After its comparison a check only counts and reports. -/
theorem Check.run_keeps (hcompare : ∀ memory, Step.Keeps R (Check.drawAndCompare x memory))
    (memory : Check.Memory) : Step.Keeps R (Check.run x memory) :=
  .bind htrans (hcount _) fun _ => .bind htrans (hcompare memory) fun _ =>
    .bind htrans (Check.settle_keeps hrefl htrans hreport hcount _ _) fun _ => .pure hrefl _

end checks

/-! ## Panels -/

section panels

variable (hcheck : ∀ memory, Step.Keeps R (Check.run x memory))

include hcheck

theorem Check.oracle_keeps (memory : Check.Memory) :
    Step.Keeps R ((Check.oracle x).check memory) :=
  .bind htrans (hcheck memory) fun _ => .pure hrefl _

theorem Suite.runMembers_keeps (members : List Check.Memory) :
    Step.Keeps R (Suite.runMembers (Check.oracle x) members) := by
  induction members with
  | nil => exact .pure hrefl _
  | cons memory members ih =>
    unfold Suite.runMembers
    refine .bind htrans (Check.oracle_keeps hrefl htrans hcheck memory) fun checked => ?_
    rcases checked with ⟨_ | _, memory⟩
    · exact .pure hrefl _
    · exact .bind htrans ih fun _ => .pure hrefl _

/-- A panel keeps what its checks keep. -/
theorem Panel.check_keeps (panel : Panel) : Step.Keeps R ((Panel.oracle x).check panel) := by
  cases panel with
  | alone memory =>
    exact .bind htrans (Check.oracle_keeps hrefl htrans hcheck memory) fun _ => .pure hrefl _
  | suite suite =>
    have hmembers := Suite.runMembers_keeps hrefl htrans hcheck suite.members
    have hsuite : Step.Keeps R (Suite.check (Check.oracle x) suite) :=
      .bind htrans hmembers fun _ => .pure hrefl _
    exact .bind htrans hsuite fun _ => .pure hrefl _

end panels

/-! ## Rounds -/

namespace Campaign

variable {host : Host σ} {plan : Plan}

theorem round_keeps_of (hmutate : Step.Keeps R (maybeMutate host plan).result)
    (hpanel : ∀ panel, Step.Keeps R ((Panel.oracle host.executor).check panel)) (panel : Panel) :
    Step.Keeps R (round host plan panel) := by
  unfold round
  refine .bind htrans hmutate fun mutated => ?_
  cases mutated with
  | error e => exact .pure hrefl _
  | ok _ => exact hpanel panel

theorem rounds_keeps_of (hround : ∀ panel, Step.Keeps R (round host plan panel))
    {deadline : Option Nat} (hbudget : Step.Keeps R (Step.onLink (budgetSpent host deadline)))
    (n : Nat) (panel : Panel) : Step.Keeps R (rounds host plan deadline n panel) := by
  induction n generalizing panel with
  | zero => exact .pure hrefl _
  | succ n ih =>
    unfold rounds
    refine .bind htrans hbudget fun spent => ?_
    cases spent with
    | true => exact .pure hrefl _
    | false =>
      refine .bind htrans (hround panel) fun done => ?_
      rcases done with ⟨_ | _, panel⟩
      · exact .pure hrefl _
      · exact ih panel

end Campaign

end walks

/-! ## Frames -/

namespace Frame

variable {x : Executor σ} {R : Session σ → Session σ → Prop} (frame : Frame x R)

section counting

variable (hcount : ∀ change, Step.Keeps R (Step.count change))

include frame hcount

theorem check (memory : Check.Memory) : Step.Keeps R (Check.run x memory) :=
  Check.run_keeps frame.refl frame.trans frame.report hcount frame.drawAndCompare memory

theorem panel (panel : Panel) : Step.Keeps R ((Panel.oracle x).check panel) :=
  Panel.check_keeps frame.refl frame.trans (frame.check hcount) panel

end counting

end Frame

/-! ## Databases -/

namespace Campaign

variable {host : Host σ} {R : Session σ → Session σ → Prop} (frame : Frame host.executor R)
  (plan : Plan)

include frame

theorem prepare_keeps (hclock : Step.Keeps R (Step.onLink (Link.onEngine host.wallClock)))
    (hrenew : (Action.renewSchema host.executor).Within R RunError.IsLoss) :
    (prepare host plan).Within R RunError.IsLoss := by
  unfold prepare
  refine frame.bind hrenew fun _ => frame.bind (.ofStep hclock) fun millis =>
    frame.bind (frame.closed.fillDatabase hrenew millis) fun _ => ?_
  split
  · exact frame.bind frame.closed.topUp fun _ => frame.pure ()
  · exact frame.pure ()

theorem maybeMutate_keeps : (maybeMutate host plan).Within R RunError.IsLoss := by
  unfold maybeMutate
  refine frame.bind (frame.drawn _) fun mutates => ?_
  cases mutates with
  | true => exact frame.bind frame.closed.updateRows fun _ => frame.pure ()
  | false => exact frame.pure ()

variable (hcount : ∀ change, Step.Keeps R (Step.count change))

include hcount

theorem round_keeps (panel : Panel) : Step.Keeps R (round host plan panel) :=
  round_keeps_of frame.refl frame.trans (maybeMutate_keeps frame plan).result
    (frame.panel hcount) panel

theorem rounds_keeps {deadline : Option Nat}
    (hbudget : Step.Keeps R (Step.onLink (budgetSpent host deadline))) (n : Nat) (panel : Panel) :
    Step.Keeps R (rounds host plan deadline n panel) :=
  rounds_keeps_of frame.refl frame.trans (round_keeps frame plan hcount) hbudget n panel

end Campaign

/-! ## Properties of the engine -/

/-- No call takes the property away from the state of the engine. -/
structure Executor.Maintains (x : Executor σ) (P : σ → Prop) : Prop where
  execute : ∀ sql engine, P engine → P (x.execute sql engine).2
  fetch : ∀ sql engine, P engine → P (x.fetch sql engine).2
  columnNames : ∀ sql engine, P engine → P (x.columnNames sql engine).2

/-- The engine still has the property if it had it before. -/
def Session.KeepsEngine (P : σ → Prop) (s s' : Session σ) : Prop :=
  P s.engine → P s'.engine

theorem Executor.Maintains.frame {x : Executor σ} {P : σ → Prop} (h : x.Maintains P) :
    Frame x (Session.KeepsEngine P) where
  refl _ := id
  trans _ _ _ h h' := h' ∘ h
  execute sql s hs := by
    rw [Action.execute_result]
    exact h.execute sql s.engine hs
  fetch sql s hs := by
    rw [Action.fetch_result]
    exact h.fetch sql s.engine hs
  draw _ _ := id
  report _ _ _ := id

end RowParity
