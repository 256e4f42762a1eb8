import RowParity.Proofs.Workload.Addition

/-!
# Topping up

What topping up comes to, whatever the executor answers and also if the connection is lost. A
`Refill` is what was done about one table, and `Refills` all that was done, table by table. It is a
course of trials, of which the first for each table counts its rows.
-/

namespace RowParity

variable {σ : Type} {x : Executor σ}

/-! ## All tables -/

/-- What was done about one table: what its rows were counted as, and the trials of every row that
was added then. -/
structure Refill where
  table : Table
  count : Except EngineError (List Row)
  rows : List (List Trial)

namespace Refill

/-- The count was answered, and its first cell reads as zero. -/
def IsDue (refill : Refill) : Prop :=
  ∃ cell cells others, refill.count = .ok ((cell :: cells) :: others) ∧ cell.plain = "0"

/-- The statement that counts the rows. -/
def counting (refill : Refill) : Trial where
  sql := Action.countQuery refill.table.name
  error := match refill.count with
    | .ok _ => none
    | .error e => some e

/-- The statements that add rows. -/
def inserts (refill : Refill) : List Trial :=
  refill.rows.flatten

def trials (refill : Refill) : List Trial :=
  refill.counting :: refill.inserts

/-- There were five calls that add a row if the table is due, and none if it is not. -/
structure IsSettled (refill : Refill) : Prop where
  length_iff : refill.rows.length = 5 ↔ refill.IsDue
  eq_nil_iff : refill.rows = [] ↔ ¬refill.IsDue

/-- Every row was added by a call for the table, at most five times and only if the table is due. -/
structure IsLawful (x : Executor σ) (refill : Refill) : Prop where
  call : ∀ trials ∈ refill.rows, ∃ s result s', RowAddition x refill.table s trials result s'
  length_le : refill.rows.length ≤ 5
  isDue : refill.rows ≠ [] → refill.IsDue
  yieldsRow : ∀ trial ∈ refill.inserts, refill.table.YieldsRow trial.sql

theorem IsLawful.of_nil (table : Table) (count : Except EngineError (List Row)) :
    IsLawful x ⟨table, count, []⟩ :=
  ⟨List.forall_mem_nil _, Nat.zero_le _, fun hne => absurd rfl hne, List.forall_mem_nil _⟩

section

variable {table : Table} {count : Except EngineError (List Row)} {rows : List (List Trial)}
  {s s' : Session σ}

theorem IsLawful.of_due {result : Except RunError Bool} (due : IsDue ⟨table, count, rows⟩)
    (h : RowAdditions x table 5 s rows result s') : IsLawful x ⟨table, count, rows⟩ :=
  ⟨h.exists_addition, h.length_le, fun _ => due, h.tried.yieldsRow⟩

theorem IsSettled.of_notDue (h : ¬IsDue ⟨table, count, []⟩) : IsSettled ⟨table, count, []⟩ :=
  ⟨⟨nofun, fun hdue => absurd hdue h⟩, ⟨fun _ => h, fun _ => rfl⟩⟩

theorem IsSettled.of_due {added : Bool} (due : IsDue ⟨table, count, rows⟩)
    (h : RowAdditions x table 5 s rows (.ok added) s') : IsSettled ⟨table, count, rows⟩ := by
  have hlength : rows.length = 5 := h.tried.of_ok.1
  refine ⟨⟨fun _ => due, fun _ => hlength⟩, ⟨?_, fun hnot => absurd due hnot⟩⟩
  rintro rfl
  cases hlength

end

end Refill

/-- The rows of the table were counted, and the connection is well. A rejected count is
reported. -/
inductive Counted (x : Executor σ) (table : Table) (s : Session σ) :
    Except EngineError (List Row) → Session σ → Prop
  | answered {rows : List Row} {s' : Session σ}
      (ran : Action.fetch x (Action.countQuery table.name) s = .ok rows s') :
      Counted x table s (.ok rows) s'
  | rejected {rejected reason : String} {s' : Session σ}
      (ran : Action.fetch x (Action.countQuery table.name) s =
        .error (.engine (.statement rejected reason)) s') :
      Counted x table s (.error (.statement rejected reason))
        (Step.exception (.engine (.statement rejected reason))
          (some (Action.countQuery table.name)) s').2

/-- Table by table the rows are counted, and five rows are added where there are none, up to a lost
connection. -/
inductive Refills (x : Executor σ) :
    Session σ → List Table → List Refill → Except RunError Bool → Session σ → Prop
  | done (s : Session σ) : Refills x s [] [] (.ok false) s
  | uncounted {s s' : Session σ} {table : Table} {tables : List Table} {message : String}
      (ran : Action.fetch x (Action.countQuery table.name) s =
        .error (.engine (.connection message)) s') :
      Refills x s (table :: tables) [⟨table, .error (.connection message), []⟩]
        (.error (.engine (.connection message))) s'
  | passed {s s₁ s' : Session σ} {table : Table} {tables : List Table}
      {count : Except EngineError (List Row)} {refills : List Refill}
      {result : Except RunError Bool} (counted : Counted x table s count s₁)
      (notDue : ¬(Refill.mk table count []).IsDue) (rest : Refills x s₁ tables refills result s') :
      Refills x s (table :: tables) (⟨table, count, []⟩ :: refills) result s'
  | lost {s s₁ s' : Session σ} {table : Table} {tables : List Table}
      {count : Except EngineError (List Row)} {rows : List (List Trial)} {e : RunError}
      (counted : Counted x table s count s₁) (due : (Refill.mk table count rows).IsDue)
      (added : RowAdditions x table 5 s₁ rows (.error e) s') :
      Refills x s (table :: tables) [⟨table, count, rows⟩] (.error e) s'
  | refilled {s s₁ s₂ s' : Session σ} {table : Table} {tables : List Table}
      {count : Except EngineError (List Row)} {rows : List (List Trial)} {added : Bool}
      {refills : List Refill} {result : Except RunError Bool} (counted : Counted x table s count s₁)
      (due : (Refill.mk table count rows).IsDue)
      (rowsAdded : RowAdditions x table 5 s₁ rows (.ok added) s₂)
      (rest : Refills x s₂ tables refills result s') :
      Refills x s (table :: tables) (⟨table, count, rows⟩ :: refills)
        (result.map fun others => added || others) s'

theorem Counted.course {table : Table} {s s' : Session σ} {count : Except EngineError (List Row)}
    (h : Counted x table s count s') (rows : List (List Trial)) :
    Course x s [(Refill.counting ⟨table, count, rows⟩).deed] none s' := by
  cases h with
  | answered ran => exact .accepted (.fetched ran) (.done _)
  | rejected ran => exact .rejected (.unfetched ran) (.done _)

namespace Refills

variable {s s' : Session σ} {tables : List Table} {refills : List Refill}
  {result : Except RunError Bool}

theorem course (h : Refills x s tables refills result s') :
    Course x s ((refills.flatMap Refill.trials).map Trial.deed) (errorOf? result) s' := by
  induction h with
  | done s => exact .done s
  | uncounted ran => exact .ended (.lost (.unfetched ran))
  | passed counted _ _ ih => exact (counted.course []).append ih
  | @lost _ _ _ _ _ _ rows _ counted _ added =>
    rw [List.flatMap_singleton]
    exact (counted.course rows).append added.course
  | @refilled _ _ _ _ _ _ _ rows _ _ _ counted _ rowsAdded _ ih =>
    rw [List.flatMap_cons, List.map_append, errorOf?_map]
    exact ((counted.course rows).append rowsAdded.course).append ih

theorem tables_prefix (h : Refills x s tables refills result s') :
    refills.map Refill.table <+: tables := by
  induction h with
  | done => exact List.prefix_rfl
  | uncounted => exact List.prefix_append [_] _
  | passed _ _ _ ih => exact List.cons_prefix_cons.2 ⟨rfl, ih⟩
  | lost => exact List.prefix_append [_] _
  | refilled _ _ _ _ ih => exact List.cons_prefix_cons.2 ⟨rfl, ih⟩

/-- Rows are only added to tables that are due. -/
theorem isLawful (h : Refills x s tables refills result s') :
    ∀ refill ∈ refills, refill.IsLawful x := by
  induction h with
  | done => exact List.forall_mem_nil _
  | uncounted => exact List.forall_mem_singleton.2 (.of_nil _ _)
  | passed _ _ _ ih => exact List.forall_mem_cons.2 ⟨.of_nil _ _, ih⟩
  | lost _ due added => exact List.forall_mem_singleton.2 (.of_due due added)
  | refilled _ due rowsAdded _ ih => exact List.forall_mem_cons.2 ⟨.of_due due rowsAdded, ih⟩

/-- Only the table over which the connection was lost may be left unsettled. -/
theorem isSettled_earlier (h : Refills x s tables refills result s') :
    ∀ refill ∈ refills.dropLast, refill.IsSettled := by
  have hcons {refill : Refill} {refills : List Refill} (hfirst : refill.IsSettled)
      (hrest : ∀ refill ∈ refills.dropLast, refill.IsSettled) :
      ∀ r ∈ (refill :: refills).dropLast, r.IsSettled := by
    cases refills with
    | nil => exact List.forall_mem_nil _
    | cons => exact List.forall_mem_cons.2 ⟨hfirst, hrest⟩
  induction h with
  | done => exact List.forall_mem_nil _
  | uncounted => exact List.forall_mem_nil _
  | passed _ notDue _ ih => exact hcons (.of_notDue notDue) ih
  | lost => exact List.forall_mem_nil _
  | refilled _ due rowsAdded _ ih => exact hcons (.of_due due rowsAdded) ih

/-- While the connection is well every table has its turn and is settled. -/
theorem isSettled_of_ok {added : Bool} (h : Refills x s tables refills (.ok added) s') :
    refills.map Refill.table = tables ∧ ∀ refill ∈ refills, refill.IsSettled := by
  generalize hok : (Except.ok added : Except RunError Bool) = result at h
  induction h generalizing added with
  | done => exact ⟨rfl, List.forall_mem_nil _⟩
  | uncounted => cases hok
  | passed _ notDue _ ih =>
    obtain ⟨htables, hsettled⟩ := ih hok
    exact ⟨congrArg _ htables, List.forall_mem_cons.2 ⟨.of_notDue notDue, hsettled⟩⟩
  | lost => cases hok
  | @refilled _ _ _ _ _ _ _ _ _ _ result _ due rowsAdded _ ih =>
    cases result with
    | error e => cases hok
    | ok others =>
      obtain ⟨htables, hsettled⟩ := ih rfl
      exact ⟨congrArg _ htables, List.forall_mem_cons.2 ⟨.of_due due rowsAdded, hsettled⟩⟩

/-- Any row was added just if some statement that adds rows was accepted. -/
theorem added_iff {added : Bool} (h : Refills x s tables refills (.ok added) s') :
    added = true ↔ ∃ trial ∈ refills.flatMap Refill.inserts, trial.isAccepted = true := by
  generalize hok : (Except.ok added : Except RunError Bool) = result at h
  induction h generalizing added with
  | done =>
    cases hok
    simp
  | uncounted => cases hok
  | passed _ _ _ ih => exact ih hok
  | lost => cases hok
  | @refilled _ _ _ _ _ _ _ rows _ _ result _ _ rowsAdded _ ih =>
    cases result with
    | error e => cases hok
    | ok others =>
      cases hok
      rw [Bool.or_eq_true, rowsAdded.added_iff, ih rfl, List.flatMap_cons, Refill.inserts]
      simp only [List.mem_append, or_and_right, exists_or]

end Refills

namespace Action

theorem saysZero_iff {rows : List Row} : saysZero rows = true ↔
    ∃ cell cells others, rows = (cell :: cells) :: others ∧ cell.plain = "0" := by
  unfold saysZero
  split
  · simp
  · next hother =>
    refine ⟨nofun, ?_⟩
    rintro ⟨cell, cells, others, rfl, -⟩
    exact absurd rfl (hother cell cells others)

/-- Whether a table is empty is told by its count, unless the connection is lost. -/
theorem isEmptyTable_counted (x : Executor σ) (table : Table) (s : Session σ) :
    (∃ count s₁ isEmpty, (isEmptyTable x table).result s = (.ok isEmpty, s₁) ∧
      Counted x table s count s₁ ∧
      ∀ rows, isEmpty = true ↔ (Refill.mk table count rows).IsDue) ∨
    ∃ message s₁, (isEmptyTable x table).result s =
        (.error (.engine (.connection message)), s₁) ∧
      fetch x (countQuery table.name) s = .error (.engine (.connection message)) s₁ := by
  rw [isEmptyTable_eq, absorbing_result]
  obtain ⟨answer, s₁, hrun, -⟩ | ⟨message | ⟨rejected, reason⟩, s₁, hrun, -⟩ :=
    delivers_fetch (x := x) (countQuery table.name) s <;> rw [hrun]
  · refine .inl ⟨.ok answer, s₁, saysZero answer, rfl, .answered hrun, fun rows => ?_⟩
    simp [saysZero_iff, Refill.IsDue]
  · exact .inr ⟨message, s₁, rfl, rfl⟩
  · refine .inl ⟨_, _, false, rfl, .rejected hrun, fun rows => ?_⟩
    simp [Refill.IsDue]

theorem topUpTables_refills (x : Executor σ) (tables : List Table) (s : Session σ) :
    ∃ refills, Refills x s tables refills ((topUpTables x tables).result s).1
      ((topUpTables x tables).result s).2 := by
  induction tables generalizing s with
  | nil => exact ⟨[], .done s⟩
  | cons table tables ih =>
    rw [topUpTables, result_bind]
    obtain ⟨count, s₁, isEmpty, hrun, hcounted, hdue⟩ | ⟨message, s₁, hrun, hlost⟩ :=
      isEmptyTable_counted x table s <;> rw [hrun] <;> dsimp only
    · cases isEmpty with
      | false =>
        obtain ⟨refills, hrefills⟩ := ih s₁
        have hsame (result : Except RunError Bool) :
            result.map (fun others => false || others) = result := by
          cases result <;> rfl
        rw [if_neg Bool.false_ne_true, pure_bind, result_bind_pure, hsame]
        exact ⟨_, .passed hcounted (mt (hdue []).2 Bool.false_ne_true) hrefills⟩
      | true =>
        obtain ⟨rows, hrows⟩ := addRows_additions x table topUpAttempts s₁
        rw [if_pos rfl, result_bind]
        rcases hadd : (addRows x table topUpAttempts).result s₁ with ⟨e | added, s₂⟩ <;>
          rw [hadd] at hrows
        · exact ⟨_, .lost hcounted ((hdue rows).1 rfl) hrows⟩
        · obtain ⟨refills, hrefills⟩ := ih s₂
          dsimp only
          rw [result_bind_pure]
          exact ⟨_, .refilled hcounted ((hdue rows).1 rfl) hrows hrefills⟩
    · exact ⟨_, .uncounted hlost⟩

end Action

/-! ## The contract -/

/-- What topping up came to: the tables that were visited, and the result. Each of them has one
count and then its rows. -/
structure ToppedUp (x : Executor σ) (s : Session σ) (refills : List Refill)
    (result : Except RunError Bool) (s' : Session σ) : Prop
    extends Tried x s (refills.flatMap Refill.trials) result s' where
  /-- The counts are those of the executor, table by table. -/
  runs : Refills x s s.schema.tables refills result s'
  /-- The tables are visited in the order of the schema, up to a lost connection. -/
  tables_prefix : refills.map Refill.table <+: s.schema.tables
  /-- Rows are only added to tables that are due, by calls for that table, at most five of them. -/
  lawful : ∀ refill ∈ refills, refill.IsLawful x
  /-- Every table that the work has left behind had five calls if it was due, and else none. -/
  settled : ∀ refill ∈ refills.dropLast, refill.IsSettled
  settled_of_ok : ∀ added, result = .ok added →
    refills.map Refill.table = s.schema.tables ∧ ∀ refill ∈ refills, refill.IsSettled
  added_iff : ∀ added, result = .ok added →
    (added = true ↔ ∃ trial ∈ refills.flatMap Refill.inserts, trial.isAccepted = true)

/-- Whatever is sent counts the rows of a table of the schema or adds a row to it. -/
theorem ToppedUp.yields {s s' : Session σ} {refills : List Refill} {result : Except RunError Bool}
    (h : ToppedUp x s refills result s') :
    ∀ trial ∈ refills.flatMap Refill.trials, s.schema.Yields trial.sql := by
  intro trial htrial
  obtain ⟨refill, hrefill, hmem⟩ := List.mem_flatMap.1 htrial
  have htable : refill.table ∈ s.schema.tables :=
    h.tables_prefix.subset (List.mem_map_of_mem hrefill)
  rcases List.mem_cons.1 hmem with rfl | hinsert
  · exact .counted htable
  · exact .row htable ((h.lawful refill hrefill).yieldsRow trial hinsert)

namespace Action

theorem topUp_toppedUp (x : Executor σ) (s : Session σ) :
    ∃ refills, ToppedUp x s refills ((topUp x).result s).1 ((topUp x).result s).2 := by
  have hresult : (topUp x).result s = (topUpTables x s.schema.tables).result s := rfl
  obtain ⟨refills, hruns⟩ := topUpTables_refills x s.schema.tables s
  rw [hresult]
  generalize (topUpTables x s.schema.tables).result s = run at hruns
  obtain ⟨result, s'⟩ := run
  refine ⟨refills, .of_course hruns.course, hruns, hruns.tables_prefix, hruns.isLawful,
    hruns.isSettled_earlier, ?_, ?_⟩
  · rintro added rfl
    exact hruns.isSettled_of_ok
  · rintro added rfl
    exact hruns.added_iff

/-- **Rows are reported truthfully.** Whatever the executor answers, adding a row adds one at most
and says so, and topping up adds five rows to each table that was counted as empty, nothing to the
others, and tells whether any row was added. -/
theorem rows_truthful (x : Executor σ) (s : Session σ) :
    (∀ table, ∃ trials, RowAddition x table s trials ((addRow x table).result s).1
      ((addRow x table).result s).2) ∧
    ∃ refills, ToppedUp x s refills ((topUp x).result s).1 ((topUp x).result s).2 :=
  ⟨fun table => addRow_addition x table s, topUp_toppedUp x s⟩

end Action

end RowParity
