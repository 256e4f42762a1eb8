import RowParity.Proofs.Session.Deed
import RowParity.Proofs.Workload.Pieces

/-!
# Absorbed rejections

A workload goes on after a rejected statement and stops at once when the connection is lost. All its
work runs on courses (`Action.Coursed`): the pieces do, so filling a database, adding rows, topping
up and updating do as well. What a call came to is then read off its course (`Action.Absorbs`).
-/

namespace RowParity

variable {σ α β : Type} {x : Executor σ} {Kind : Deed → Prop}

def errorOf? : Except RunError α → Option RunError
  | .ok _ => none
  | .error e => some e

theorem errorOf?_eq_some {result : Except RunError α} {e : RunError} :
    errorOf? result = some e ↔ result = .error e := by
  cases result <;> simp [errorOf?]

theorem errorOf?_map (result : Except RunError α) (f : α → β) :
    errorOf? (result.map f) = errorOf? result := by
  cases result <;> rfl

def Deed.IsStatement (deed : Deed) : Prop :=
  ∃ sql, deed.sql? = some sql

namespace Action

/-- Every run of the action is a course of deeds of the given kind. -/
def Coursed (x : Executor σ) (Kind : Deed → Prop) (action : Action σ α) : Prop :=
  ∀ s, ∃ deeds, (∀ deed ∈ deeds, Kind deed) ∧
    Course x s deeds (errorOf? (action.result s).1) (action.result s).2

namespace Coursed

theorem pure (a : α) : Coursed x Kind (Pure.pure a : Action σ α) :=
  fun s => ⟨[], List.forall_mem_nil _, .done s⟩

theorem bind {action : Action σ α} {next : α → Action σ β} (h : action.Coursed x Kind)
    (hnext : ∀ a, (next a).Coursed x Kind) : (action >>= next).Coursed x Kind := by
  intro s
  obtain ⟨deeds, hkind, hcourse⟩ := h s
  rw [result_bind]
  rcases hrun : action.result s with ⟨e | a, s₁⟩ <;> rw [hrun] at hcourse
  · exact ⟨deeds, hkind, hcourse⟩
  · obtain ⟨others, hothers, hrest⟩ := hnext a s₁
    exact ⟨deeds ++ others, List.forall_mem_append.2 ⟨hkind, hothers⟩, hcourse.append hrest⟩

theorem drawn (d : Draw α) : (draw d : Action σ α).Coursed x Kind :=
  fun _ => ⟨[], List.forall_mem_nil _, .drew d (.done _)⟩

theorem schema : (Action.schema : Action σ Schema).Coursed x Kind :=
  fun s => ⟨[], List.forall_mem_nil _, .done s⟩

theorem info (message : String) : (Action.info message : Action σ Unit).Coursed x Kind :=
  fun _ => ⟨[], List.forall_mem_nil _, .informed message (.done _)⟩

end Coursed

/-! ## Absorbed statements -/

/-- Sends a statement and passes over its rejection. -/
def absorbing (send : Action σ α) (sql : String) (accepted : α → Bool) : Action σ Bool := do
  match ← attempt send with
  | .ok a => return accepted a
  | .error e =>
    if e.isDisconnect then throw e
    else
      exception e (some sql)
      return false

theorem tryExecute_eq (sql : String) :
    tryExecute x sql = absorbing (execute x sql) sql fun _ => true := by
  unfold tryExecute absorbing
  refine congrArg _ (funext fun answer => ?_)
  cases answer <;> rfl

theorem isEmptyTable_eq (table : Table) :
    isEmptyTable x table =
      absorbing (fetch x (countQuery table.name)) (countQuery table.name) saysZero := by
  unfold isEmptyTable absorbing
  dsimp only
  refine congrArg _ (funext fun answer => ?_)
  cases answer <;> rfl

/-- How a run of `send` delivers the statement. -/
def Delivers (x : Executor σ) (sql : String) (send : Action σ α) : Prop :=
  ∀ s, (∃ a s', send s = .ok a s' ∧ Delivered x sql s none s') ∨
    ∃ e s', send s = .error (.engine e) s' ∧ Delivered x sql s (some e) s'

theorem delivers_execute (sql : String) : Delivers x sql (execute x sql) := by
  intro s
  obtain ⟨link, -, -, ⟨_, hrun⟩ | ⟨e, hrun⟩⟩ := sends_execute x sql s
  · exact .inl ⟨(), _, hrun, .executed hrun⟩
  · exact .inr ⟨e, _, hrun, .refused hrun⟩

theorem delivers_fetch (sql : String) : Delivers x sql (fetch x sql) := by
  intro s
  obtain ⟨link, -, -, ⟨rows, hrun⟩ | ⟨e, hrun⟩⟩ := sends_fetch x sql s
  · exact .inl ⟨rows, _, hrun, .fetched hrun⟩
  · exact .inr ⟨e, _, hrun, .unfetched hrun⟩

theorem absorbing_result (send : Action σ α) (sql : String) (accepted : α → Bool)
    (s : Session σ) :
    (absorbing send sql accepted).result s =
      match send s with
      | .ok a s₁ => (.ok (accepted a), s₁)
      | .error e s₁ =>
        if e.isDisconnect then (.error e, s₁)
        else (.ok false, (Step.exception e (some sql) s₁).2) := by
  have hattempt : (attempt send).result s = (.ok (send.result s).1, (send.result s).2) := rfl
  rw [absorbing, result_bind, hattempt, result]
  rcases send s with ⟨a, s₁⟩ | ⟨e, s₁⟩
  · rfl
  · dsimp only
    split
    · rfl
    · rfl

/-- An absorbed statement is one deed: it is accepted, or rejected and reported, or the connection
is lost. -/
theorem Coursed.absorbing {send : Action σ α} {sql : String} (h : Delivers x sql send)
    (hkind : ∀ error, Kind (.statement sql error)) (accepted : α → Bool) :
    Coursed x Kind (Action.absorbing send sql accepted) := by
  intro s
  rw [absorbing_result]
  obtain ⟨a, s', hrun, hsent⟩ | ⟨e, s', hrun, hsent⟩ := h s <;> rw [hrun]
  · exact ⟨_, List.forall_mem_singleton.2 (hkind none), .accepted hsent (.done s')⟩
  · refine ⟨_, List.forall_mem_singleton.2 (hkind (some e)), ?_⟩
    cases e with
    | connection message => exact .ended (.lost hsent)
    | statement rejected reason => exact .rejected hsent (.done _)

theorem coursed_closed (x : Executor σ) (hkind : ∀ sql error, Kind (.statement sql error)) :
    Workload.Closed fun _ work => (work σ x).Coursed x Kind where
  pure := .pure
  bind h hnext := .bind h hnext
  draw := .drawn
  schema := .schema
  info := .info
  tryExecute sql := by
    show (tryExecute x sql).Coursed x Kind
    rw [tryExecute_eq]
    exact .absorbing (delivers_execute sql) (hkind sql) _
  isEmptyTable table := by
    show (isEmptyTable x table).Coursed x Kind
    rw [isEmptyTable_eq]
    exact .absorbing (delivers_fetch _) (hkind _) _

/-! ## Refreshes -/

theorem renewSchema_result (x : Executor σ) (s : Session σ) :
    (renewSchema x).result s =
      match renewSchemaOnce x s with
      | .ok () s₁ => (.ok (), s₁)
      | .error first s₁ =>
        match renewSchemaOnce x (Step.exception first none s₁).2 with
        | .ok () s₂ => (.ok (), s₂)
        | .error second s₂ => (.error (secondFailure second), s₂) := by
  have hattempt (s : Session σ) : (attempt (renewSchemaOnce x)).result s =
      (.ok ((renewSchemaOnce x).result s).1, ((renewSchemaOnce x).result s).2) := rfl
  rw [renewSchema, result_bind, hattempt, result]
  rcases renewSchemaOnce x s with ⟨_, s₁⟩ | ⟨first, s₁⟩
  · rfl
  · have hreport : (exception first none : Action σ Unit).result s₁ =
        (.ok (), (Step.exception first none s₁).2) := rfl
    dsimp only
    rw [result_bind, hreport]
    dsimp only
    rw [result_bind, hattempt, result]
    rcases renewSchemaOnce x (Step.exception first none s₁).2 with ⟨_, s₂⟩ | ⟨second, s₂⟩
    · rfl
    · rfl

/-- A refresh is one deed, with the errors of the attempts that failed. -/
theorem renewSchema_coursed (x : Executor σ) (hkind : ∀ errors, Kind (.refresh errors)) :
    (renewSchema x).Coursed x Kind := by
  intro s
  rw [renewSchema_result]
  rcases hfirst : renewSchemaOnce x s with ⟨_, s₁⟩ | ⟨first, s₁⟩
  · exact ⟨_, List.forall_mem_singleton.2 (hkind []), .refreshed hfirst (.done s₁)⟩
  · dsimp only
    rcases hsecond : renewSchemaOnce x (Step.exception first none s₁).2 with
      ⟨_, s₂⟩ | ⟨second, s₂⟩
    · exact ⟨_, List.forall_mem_singleton.2 (hkind [first]), .reread hfirst hsecond (.done s₂)⟩
    · exact ⟨_, List.forall_mem_singleton.2 (hkind [first, second]),
        .ended (.unreadable hfirst hsecond)⟩

/-! ## Workloads -/

theorem fillDatabase_coursed (x : Executor σ) (millis : Int) :
    (fillDatabase x millis).Coursed x fun _ => True := by
  have closed := @coursed_closed σ (fun _ => True) x fun _ _ => trivial
  exact closed.fillDatabase (renewSchema_coursed x fun _ => trivial) millis

/-- Adding rows and changing them is done by statements alone. -/
theorem statements_closed (x : Executor σ) :
    Workload.Closed fun _ work => (work σ x).Coursed x Deed.IsStatement :=
  coursed_closed x fun sql _ => ⟨sql, rfl⟩

theorem addRow_coursed (x : Executor σ) (table : Table) :
    (addRow x table).Coursed x Deed.IsStatement :=
  (statements_closed x).addRow table

theorem topUp_coursed (x : Executor σ) : (topUp x).Coursed x Deed.IsStatement :=
  (statements_closed x).topUp

theorem updateRows_coursed (x : Executor σ) : (updateRows x).Coursed x Deed.IsStatement :=
  (statements_closed x).updateRows

/-! ## What a call came to -/

/-- The call did these deeds and nothing else that counts, and it failed if and only if one of them
was fatal, with which it ended at once. -/
structure Absorbed (x : Executor σ) (s : Session σ) (deeds : List Deed) (end? : Option RunError)
    (s' : Session σ) : Prop where
  course : Course x s deeds end? s'
  failed_iff : (∃ e, end? = some e) ↔ ∃ deed ∈ deeds, deed.IsFatal
  /-- The error is a lost connection, and nothing was done after the deed that it came from. -/
  failed : ∀ e, end? = some e → e.isDisconnect = true ∧ ∃ earlier s₁ last,
    deeds = earlier ++ [last] ∧ (∀ deed ∈ earlier, ¬deed.IsFatal) ∧
      Course x s earlier none s₁ ∧ Fatal x s₁ last e s'
  /-- These are the statements that the session sent. -/
  sent : s'.statements = s.statements ++ deeds.filterMap Deed.sql?
  /-- Every rejected statement is reported once, and so is the first failure of a refresh. -/
  reported : s'.journal.errors = s.journal.errors ++ deeds.flatMap Deed.reports

theorem Absorbed.of_course {s s' : Session σ} {deeds : List Deed} {end? : Option RunError}
    (h : Course x s deeds end? s') : Absorbed x s deeds end? s' := by
  have hconcluded := Concluded.of_course h
  refine ⟨h, hconcluded.isSome_iff, fun e he => ?_, h.adds.statements, h.adds.errors⟩
  cases hconcluded with
  | passed => cases he
  | broken course harmless fatal =>
    cases he
    exact ⟨fatal.isDisconnect, _, _, _, rfl, harmless, course, fatal⟩

/-- What every run of the action comes to, with deeds of the given kind. -/
def Absorbs (x : Executor σ) (Kind : Deed → Prop) (action : Action σ α) : Prop :=
  ∀ s, ∃ deeds, (∀ deed ∈ deeds, Kind deed) ∧
    Absorbed x s deeds (errorOf? (action.result s).1) (action.result s).2

theorem Coursed.absorbs {action : Action σ α} (h : action.Coursed x Kind) :
    action.Absorbs x Kind := by
  intro s
  obtain ⟨deeds, hkind, hcourse⟩ := h s
  exact ⟨deeds, hkind, .of_course hcourse⟩

end Action

end RowParity
