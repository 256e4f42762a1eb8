import RowParity.Proofs.Campaign.Accounting
import RowParity.Proofs.Campaign.Operation
import RowParity.Proofs.Workload.Filling

/-!
# The writers of a session

The schema of a session is a snapshot that only a refresh replaces, and its counts are changed by
checks alone, which never take anything back (`Stats.Grows`). So once a database has been filled,
all further work on it draws on the schema that the filling has read (`Campaign.Filled.drawsOn`).
-/

namespace RowParity

variable {σ α : Type} {x : Executor σ}

/-! ## Counts that grow -/

/-- No count has gone down, and no finding was lost. -/
structure Stats.Grows (stats stats' : Stats) : Prop where
  checks : stats.checks ≤ stats'.checks
  passes : stats.passes ≤ stats'.passes
  expectedErrors : stats.expectedErrors ≤ stats'.expectedErrors
  findings : stats.findings <+: stats'.findings

theorem Stats.Grows.refl (stats : Stats) : stats.Grows stats :=
  ⟨Nat.le_refl _, Nat.le_refl _, Nat.le_refl _, List.prefix_rfl⟩

theorem Stats.Grows.trans {stats stats₁ stats' : Stats} (h : stats.Grows stats₁)
    (h' : stats₁.Grows stats') : stats.Grows stats' where
  checks := Nat.le_trans h.checks h'.checks
  passes := Nat.le_trans h.passes h'.passes
  expectedErrors := Nat.le_trans h.expectedErrors h'.expectedErrors
  findings := h.findings.trans h'.findings

theorem Stats.grows_after (stats : Stats) (result : Except RunError Outcome) :
    stats.Grows (stats.after result) where
  checks := by
    rw [checks_after]
    exact Nat.le_succ _
  passes := by rcases result with _ | _ | _ | _ <;> simp [after]
  expectedErrors := by rcases result with _ | _ | _ | _ <;> simp [after]
  findings := findings_after stats result

def Session.StatsGrow (s s' : Session σ) : Prop :=
  s.stats.Grows s'.stats

theorem Session.StatsGrow.refl (s : Session σ) : s.StatsGrow s :=
  Stats.Grows.refl s.stats

theorem Session.StatsGrow.trans (s s₁ s' : Session σ) (h : s.StatsGrow s₁)
    (h' : s₁.StatsGrow s') : s.StatsGrow s' :=
  Stats.Grows.trans h h'

namespace Operation

theorem run_statsGrow (x : Executor σ) (op : Operation) :
    (op.run x).Keeps Session.StatsGrow := by
  intro s
  cases hcheck : op.isCheck with
  | false =>
    have hsame : (op.run x s).2.stats = s.stats :=
      run_keeps (Session.sameStats_frame x) (fun _ => Session.renewSchema_sameStats x)
        (fun h => absurd h (by simp [hcheck])) s
    rw [Session.StatsGrow, hsame]
    exact .refl _
  | true =>
    cases op with
    | check panel =>
      refine Panel.check_keeps Session.StatsGrow.refl Session.StatsGrow.trans ?_ panel s
      intro memory s
      rw [Session.StatsGrow, Check.run_stats]
      exact Stats.grows_after _ _
    | _ => cases hcheck

theorem runAll_statsGrow (x : Executor σ) (ops : List Operation) :
    (runAll x ops).Keeps Session.StatsGrow := by
  induction ops with
  | nil => exact .pure Session.StatsGrow.refl ()
  | cons op ops ih =>
    exact .bind Session.StatsGrow.trans (run_statsGrow x op) fun _ => ih

theorem runAll_stats_eq {ops : List Operation} (h : ∀ op ∈ ops, op.isCheck = false)
    (s : Session σ) : (runAll x ops s).2.stats = s.stats :=
  runAll_keeps (Session.sameStats_frame x) (fun _ => Session.renewSchema_sameStats x)
    (fun ⟨op, hop, hcheck⟩ => absurd hcheck (by simp [h op hop])) s

/-- Without a refresh everything is sent for the schema that was there at the start. -/
theorem runAll_schema_eq {ops : List Operation} (h : ∀ op ∈ ops, op.renews = false)
    (s : Session σ) : (runAll x ops s).2.schema = s.schema ∧
      s.Issues (fun sql => ∃ op ∈ ops, op.Sends s.schema sql) (runAll x ops s).2 := by
  induction ops generalizing s with
  | nil => exact ⟨rfl, .refl s⟩
  | cons op ops ih =>
    obtain ⟨hfirst, hothers⟩ := List.forall_mem_cons.1 h
    have hsame := run_schema_eq (x := x) hfirst s
    obtain ⟨hschema, hissued⟩ := ih hothers (op.run x s).2
    rw [hsame] at hschema hissued
    refine ⟨hschema, .trans ((run_issues x op s).imp fun sql hsql => ?_) (hissued.imp ?_)⟩
    · exact ⟨op, List.mem_cons_self, hsql⟩
    · exact fun sql ⟨other, hother, hsql⟩ => ⟨other, List.mem_cons_of_mem _ hother, hsql⟩

end Operation

/-! ## The work on a database -/

namespace Campaign

variable {host : Host σ} {plan : Plan} {deadline : Option Nat}

theorem budgetSpent_transcript (link : Link σ) :
    (budgetSpent host deadline link).2.transcript = link.transcript := by
  unfold budgetSpent
  rw [Link.bind_apply]
  cases (Link.onEngine host.stopRequested link).1 with
  | true => rfl
  | false => cases deadline <;> rfl

theorem budgetSpent_drawsOn :
    Step.Keeps Session.DrawsOn (Step.onLink (budgetSpent host deadline)) :=
  fun s => ⟨rfl, .of_unsent (budgetSpent_transcript s.toLink)⟩

theorem maybeMutate_drawsOn : (maybeMutate host plan).result.Keeps Session.DrawsOn := by
  have htrans (a b c : Session σ) : a.DrawsOn b → b.DrawsOn c → a.DrawsOn c := .trans
  unfold maybeMutate
  refine Action.Within.result (P := fun _ => True) (.bind htrans ?_ fun mutates => ?_)
  · exact .ofStep fun s => ⟨rfl, .refl s⟩
  · cases mutates with
    | true =>
      exact .bind htrans (.of_result (Action.updateRows_drawsOn _)) fun _ => .pure .refl ()
    | false => exact .pure .refl ()

theorem rounds_drawsOn (n : Nat) (panel : Panel) :
    Step.Keeps Session.DrawsOn (rounds host plan deadline n panel) := by
  have hround : ∀ panel, Step.Keeps Session.DrawsOn (round host plan panel) :=
    round_keeps_of .refl (fun _ _ _ => .trans) maybeMutate_drawsOn
      (Panel.check_drawsOn host.executor)
  exact rounds_keeps_of .refl (fun _ _ _ => .trans) hround budgetSpent_drawsOn n panel

/-- The database of an iteration has been filled: from `s` the schema was read and the clock looked
at, and the filling came from `start` to `s'`. -/
structure Filled (host : Host σ) (s : Session σ) (millis : Int) (start s' : Session σ) : Prop where
  begun : ∃ s₁, Action.renewSchema host.executor s = .ok () s₁ ∧
    Action.onLink (Link.onEngine host.wallClock) s₁ = .ok millis start
  filled : ∃ names, Action.fillDatabase host.executor millis start = .ok names s'

namespace Filled

variable {s start s' : Session σ} {millis : Int} (h : Filled host s millis start s')

include h

/-- What is left to prepare a database that has been filled. -/
theorem prepare_result : (prepare host plan).result s =
    (if plan.needsRows then (do let _ ← Action.topUp host.executor) else pure () :
      Action σ Unit).result s' := by
  obtain ⟨⟨s₁, hread, htimed⟩, names, hfilled⟩ := h
  rw [prepare, Action.result_bind, Action.result_ok hread]
  dsimp only
  rw [Action.result_bind, Action.result_ok htimed]
  dsimp only
  rw [Action.result_bind, Action.result_ok hfilled]

theorem prepare_drawsOn : s'.DrawsOn ((prepare host plan).result s).2 := by
  rw [h.prepare_result]
  cases plan.needsRows with
  | false => exact .refl s'
  | true =>
    have htopUp := Action.topUp_drawsOn host.executor s'
    rw [if_pos rfl, Action.result_bind]
    rcases hrun : (Action.topUp host.executor).result s' with ⟨e | _, s₁⟩ <;>
      rw [hrun] at htopUp <;> exact htopUp

/-- **All work on a filled database draws on the schema that it was left with.** -/
theorem drawsOn : s'.DrawsOn (workDatabase host plan deadline s).2 := by
  have hprepare : s'.DrawsOn ((prepare host plan).result s).2 := h.prepare_drawsOn
  rw [workDatabase_apply]
  rcases hrun : (prepare host plan).result s with ⟨e | _, s₁⟩ <;> rw [hrun] at hprepare
  · exact hprepare
  · exact hprepare.trans (rounds_drawsOn _ _ s₁)

/-- That schema is what the filling has read. -/
theorem exists_reading : ∃ filling s₁ s₂, Filling.Runs host.executor millis filling start s₁ s₂ s' ∧
    filling.reading.result = .ok s'.schema := by
  obtain ⟨-, names, hfilled⟩ := h
  obtain ⟨filling, s₁, s₂, hruns, -⟩ := Action.runs_of_ok hfilled
  refine ⟨filling, s₁, s₂, hruns, ?_⟩
  rw [hruns.seedingRun.sends_trials.schema_eq]
  exact hruns.renewal.result_eq

end Filled

/-! ## Single writers -/

/-- Who changes what from a session on, whatever the executor answers and whether the operations
succeed or fail. -/
structure SingleWriters (host : Host σ) (s : Session σ) : Prop where
  /-- Without a refresh the schema stays, and everything that is sent was generated from it, or from
  the table that a row is added to. -/
  schema : ∀ ops : List Operation, (∀ op ∈ ops, op.renews = false) →
    (Operation.runAll host.executor ops s).2.schema = s.schema ∧
      s.Issues (fun sql => ∃ op ∈ ops, op.Sends s.schema sql)
        (Operation.runAll host.executor ops s).2
  /-- In an iteration that is the schema which the filling has read. -/
  filled : ∀ millis start s', Filled host s millis start s' →
    (∃ filling s₁ s₂, Filling.Runs host.executor millis filling start s₁ s₂ s' ∧
      filling.reading.result = .ok s'.schema) ∧
    ∀ plan deadline, s'.DrawsOn (workDatabase host plan deadline s).2
  /-- Without a check the counts stay. -/
  stats : ∀ ops : List Operation, (∀ op ∈ ops, op.isCheck = false) →
    (Operation.runAll host.executor ops s).2.stats = s.stats
  /-- Counts only go up, and findings are only added. -/
  grows : ∀ ops : List Operation, s.stats.Grows (Operation.runAll host.executor ops s).2.stats

/-- **The schema and the counts have one writer each.** Only refreshes change the schema, so what is
sent after a database was filled is generated from the schema that the filling has read; only checks
change the counts, and they never take anything back. -/
theorem single_writers (host : Host σ) (s : Session σ) : SingleWriters host s where
  schema _ h := Operation.runAll_schema_eq h s
  filled _ _ _ h := ⟨h.exists_reading, fun _ _ => h.drawsOn⟩
  stats _ h := Operation.runAll_stats_eq h s
  grows ops := Operation.runAll_statsGrow host.executor ops s

/-- The host of a fitful engine. -/
def fitfulHost : Host Bool where
  executor := fitful
  checkout := return .ok ()
  stopRequested := return false
  clock := return 0
  wallClock := return 1700000000000

theorem single_writers_fitful :
    ∃ start s', Filled fitfulHost (.start ⟨true, {}, #[]⟩ 7) 1700000000000 start s' ∧
      s'.DrawsOn (workDatabase fitfulHost listPlan none (.start ⟨true, {}, #[]⟩ 7)).2 ∧
      (Operation.runAll fitful [.topUp, .update, .check (.alone none)] s').2.schema = s'.schema ∧
      (Operation.runAll fitful [.fill 1700000000001, .renew, .topUp] s').2.stats = s'.stats := by
  obtain ⟨s₁, hread⟩ := fitful_isSteady.renewSchema_ok (.start ⟨true, {}, #[]⟩ 7)
  obtain ⟨names, s', hfilled⟩ := fitful_isSteady.fillDatabase_ok 1700000000000 s₁
  have h : Filled fitfulHost (.start ⟨true, {}, #[]⟩ 7) 1700000000000 s₁ s' :=
    ⟨⟨s₁, hread, rfl⟩, names, hfilled⟩
  have hwriters := single_writers fitfulHost s'
  exact ⟨s₁, s', h, ((single_writers fitfulHost _).filled _ _ _ h).2 listPlan none,
    (hwriters.schema _ (by simp [Operation.renews])).1,
    hwriters.stats _ (by simp [Operation.isCheck])⟩

end Campaign

end RowParity
