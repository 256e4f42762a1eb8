import RowParity.Proofs.Workload.Rows

/-!
# Added rows

What adding rows comes to, whatever the executor answers and also if the connection is lost.
`RowAddition` is one call that adds a row and `RowAdditions` several of them in turn. A call is a
course of trials, so what was sent and reported is read off the course; whether the row was added is
read off the trials.
-/

namespace RowParity

variable {σ : Type} {x : Executor σ}

/-! ## One row -/

/-- The forms of a row in the order in which they are tried. -/
def Generate.rowForms (table : Table) : Draw (List String) := do
  let full ← insert table
  let minimal ← minimalInsert table
  return full.toList ++ minimal.toList

/-- What adding one row to the table came to: the statements that were tried, and the result. -/
structure RowAddition (x : Executor σ) (table : Table) (s : Session σ) (trials : List Trial)
    (result : Except RunError Bool) (s' : Session σ) : Prop extends Tried x s trials result s' where
  run : (Action.addRow x table).result s = (result, s')
  law : TriedRow table trials result
  /-- The full form is tried first, the minimal one next. -/
  forms : trials.map Trial.sql <+: (Generate.rowForms table s.random).1
  untried_iff : trials = [] ↔ table.columns = []
  untried : trials = [] → result = .ok false
  length_le : trials.length ≤ 2
  /-- The minimal form is tried just if the full one was rejected. -/
  again_iff : trials.length = 2 ↔ ∃ full, trials.head? = some full ∧ full.isRejected = true
  /-- A trial that was accepted is the last one. -/
  earlier : ∀ trial ∈ trials.dropLast, trial.isRejected = true
  added_iff : result = .ok true ↔ trials.countP Trial.isAccepted = 1
  not_added_iff : result = .ok false ↔
    ∀ trial ∈ trials, trial.isAccepted = false ∧ trial.isLost = false

namespace Action

/-- After a rejection of the full form the minimal one is drawn and tried. -/
theorem addRow_rejected {table : Table} {s s₁ : Session σ} {sql : String}
    (h : (Generate.insert table s.random).1 = some sql)
    (hrejected : (tryGenerated x (Generate.insert table)).result s = (.ok false, s₁)) :
    (addRow x table).result s = (tryGenerated x (Generate.minimalInsert table)).result s₁ := by
  rw [tryGenerated_result x h] at hrejected
  rw [addRow, result_bind, draw_result, h]
  dsimp only
  rw [result_bind, hrejected]
  rfl

/-- Nothing follows a full form that was not rejected. -/
theorem addRow_settled {table : Table} {s : Session σ} {sql : String}
    (h : (Generate.insert table s.random).1 = some sql)
    (hsettled : ((tryGenerated x (Generate.insert table)).result s).1 ≠ .ok false) :
    (addRow x table).result s = (tryGenerated x (Generate.insert table)).result s := by
  rw [tryGenerated_result x h] at hsettled ⊢
  rw [addRow, result_bind, draw_result, h]
  dsimp only
  rw [result_bind]
  rcases hrun : (tryExecute x sql).result (Step.draw (Generate.insert table) s).2 with
    ⟨e | _ | _, s₁⟩
  · rfl
  · rw [hrun] at hsettled
    exact absurd rfl hsettled
  · rfl

theorem minimalInsert_isSome {table : Table} (h : table.columns ≠ []) (source : Random.Source) :
    ∃ sql, (Generate.minimalInsert table source).1 = some sql :=
  ⟨_, Generate.rowInsert?_eq_some _ _ (by simpa using h) source⟩

/-- The trials of a row, drawn from the source of the session. -/
theorem exists_rowTrials (x : Executor σ) (table : Table) (s : Session σ) :
    ∃ trials, TriedRow table trials ((addRow x table).result s).1 ∧
      trials.map Trial.sql <+: (Generate.rowForms table s.random).1 ∧
      Course x s (trials.map Trial.deed) (errorOf? ((addRow x table).result s).1)
        ((addRow x table).result s).2 := by
  have hforms : (Generate.rowForms table s.random).1 = (Generate.insert table s.random).1.toList ++
      (Generate.minimalInsert table (Generate.insert table s.random).2).1.toList := rfl
  rw [hforms]
  cases hdrawn : (Generate.insert table s.random).1 with
  | none =>
    have hcolumns := (Generate.rowInsert?_eq_none _ _ _ _).1 hdrawn
    rw [addRow, result_bind, draw_result, hdrawn]
    exact ⟨[], .untried hcolumns, List.nil_prefix, .drew _ (.done _)⟩
  | some sql =>
    obtain ⟨error, houtcome, hcourse⟩ := tryGenerated_trial x hdrawn
    by_cases hrejected : ((tryGenerated x (Generate.insert table)).result s).1 = .ok false
    · have hrandom : ((tryGenerated x (Generate.insert table)).result s).2.random =
          (Generate.insert table s.random).2 := by
        rw [tryGenerated_result x hdrawn, tryExecute_random]
        rfl
      have hcolumns := (Generate.rowInsert?_some hdrawn).1
      obtain ⟨again, hagain⟩ := minimalInsert_isSome hcolumns (Generate.insert table s.random).2
      obtain ⟨error', houtcome', hcourse'⟩ :=
        tryGenerated_trial x (hrandom.symm ▸ hagain)
      rw [hrejected] at houtcome hcourse
      rw [addRow_rejected hdrawn (Prod.ext hrejected rfl), hagain]
      refine ⟨[⟨sql, error⟩, ⟨again, error'⟩], ?_, List.prefix_rfl, hcourse.append hcourse'⟩
      rw [houtcome']
      exact .minimal hdrawn houtcome.symm hagain
    · rw [addRow_settled hdrawn hrejected]
      refine ⟨[⟨sql, error⟩], ?_, List.prefix_append [sql] _, hcourse⟩
      rw [houtcome] at hrejected ⊢
      exact .full hdrawn hrejected

/-- Every call that adds a row is a `RowAddition`, whatever the executor answers. -/
theorem addRow_addition (x : Executor σ) (table : Table) (s : Session σ) :
    ∃ trials, RowAddition x table s trials ((addRow x table).result s).1
      ((addRow x table).result s).2 := by
  obtain ⟨trials, hlaw, hforms, hcourse⟩ := exists_rowTrials x table s
  refine ⟨trials, .of_course hcourse, rfl, hlaw, hforms, hlaw.eq_nil_iff, ?_, hlaw.length_le,
    hlaw.again_iff, hlaw.earlier_isRejected, hlaw.added_iff, hlaw.not_added_iff⟩
  rintro rfl
  exact hlaw.nil_ok

theorem addRow_tries (x : Executor σ) (schema : Schema) (table : Table) :
    Tries x schema (TriedRow table) (addRow x table) := by
  intro s _
  obtain ⟨trials, hrow⟩ := addRow_addition x table s
  exact ⟨trials, hrow.law, hrow.course⟩

end Action

/-! ## Several rows -/

/-- So many calls that add a row, one after the other, up to a lost connection. -/
inductive RowAdditions (x : Executor σ) (table : Table) :
    Nat → Session σ → List (List Trial) → Except RunError Bool → Session σ → Prop
  | done (s : Session σ) : RowAdditions x table 0 s [] (.ok false) s
  | lost {n : Nat} {s s' : Session σ} {trials : List Trial} {e : RunError}
      (row : RowAddition x table s trials (.error e) s') :
      RowAdditions x table (n + 1) s [trials] (.error e) s'
  | added {n : Nat} {s s₁ s' : Session σ} {trials : List Trial} {added : Bool}
      {rows : List (List Trial)} {result : Except RunError Bool}
      (row : RowAddition x table s trials (.ok added) s₁)
      (rest : RowAdditions x table n s₁ rows result s') :
      RowAdditions x table (n + 1) s (trials :: rows) (result.map fun others => added || others) s'

/-- The row was added just if there is an accepted trial. -/
theorem RowAddition.added_iff_exists {table : Table} {s s' : Session σ} {trials : List Trial}
    {added : Bool} (h : RowAddition x table s trials (.ok added) s') :
    added = true ↔ ∃ trial ∈ trials, trial.isAccepted = true := by
  have hadded := h.added_iff
  have hmost := h.law.countP_isAccepted_le
  rw [← List.countP_pos_iff, Nat.lt_iff_add_one_le]
  constructor
  · rintro rfl
    exact Nat.le_of_eq (hadded.1 rfl).symm
  · intro hleast
    cases hadded.2 (Nat.le_antisymm hmost hleast)
    rfl

namespace RowAdditions

variable {table : Table} {n : Nat} {s s' : Session σ} {rows : List (List Trial)}
  {result : Except RunError Bool}

theorem tried (h : RowAdditions x table n s rows result s') : TriedRows table n rows result := by
  induction h with
  | done => exact .done
  | lost row => exact .lost row.law
  | added row _ ih => exact .tried row.law ih

theorem course (h : RowAdditions x table n s rows result s') :
    Course x s (rows.flatten.map Trial.deed) (errorOf? result) s' := by
  induction h with
  | done s => exact .done s
  | lost row =>
    rw [List.flatten_singleton]
    exact row.course
  | added row _ ih =>
    rw [List.flatten_cons, List.map_append, errorOf?_map]
    exact row.course.append ih

theorem length_le (h : RowAdditions x table n s rows result s') : rows.length ≤ n := by
  induction h with
  | done => exact Nat.le_refl _
  | lost => exact Nat.le_add_left _ _
  | added _ _ ih => exact Nat.succ_le_succ ih

theorem exists_addition (h : RowAdditions x table n s rows result s') :
    ∀ trials ∈ rows, ∃ s result s', RowAddition x table s trials result s' := by
  induction h with
  | done => exact List.forall_mem_nil _
  | lost row => exact List.forall_mem_singleton.2 ⟨_, _, _, row⟩
  | added row _ ih => exact List.forall_mem_cons.2 ⟨⟨_, _, _, row⟩, ih⟩

theorem added_iff {added : Bool} (h : RowAdditions x table n s rows (.ok added) s') :
    added = true ↔ ∃ trial ∈ rows.flatten, trial.isAccepted = true := by
  generalize hok : (Except.ok added : Except RunError Bool) = result at h
  induction h generalizing added with
  | done =>
    cases hok
    simp
  | lost => cases hok
  | @added _ _ _ _ _ first _ result row _ ih =>
    cases result with
    | error e => cases hok
    | ok others =>
      cases hok
      rw [Bool.or_eq_true, row.added_iff_exists, ih rfl, List.flatten_cons]
      simp only [List.mem_append, or_and_right, exists_or]

end RowAdditions

namespace Action

theorem addRows_additions (x : Executor σ) (table : Table) (n : Nat) (s : Session σ) :
    ∃ rows, RowAdditions x table n s rows ((addRows x table n).result s).1
      ((addRows x table n).result s).2 := by
  induction n generalizing s with
  | zero => exact ⟨[], .done s⟩
  | succ n ih =>
    obtain ⟨trials, hrow⟩ := addRow_addition x table s
    rw [addRows, result_bind]
    rcases hrun : (addRow x table).result s with ⟨e | added, s₁⟩ <;> rw [hrun] at hrow
    · exact ⟨[trials], .lost hrow⟩
    · obtain ⟨rows, hrows⟩ := ih s₁
      dsimp only
      rw [result_bind_pure]
      exact ⟨trials :: rows, .added hrow hrows⟩

theorem addRows_tries (x : Executor σ) (schema : Schema) (table : Table) (n : Nat) :
    Tries x schema (fun trials result => ∃ rows, trials = rows.flatten ∧
      TriedRows table n rows result) (addRows x table n) := by
  intro s _
  obtain ⟨rows, hrows⟩ := addRows_additions x table n s
  exact ⟨rows.flatten, ⟨rows, rfl, hrows.tried⟩, hrows.course⟩

end Action

end RowParity
