import RowParity.Proofs.Campaign.Operation
import RowParity.Proofs.Catalog.Reading
import RowParity.Proofs.Session.Handover
import RowParity.Proofs.Session.Refresh

/-!
# The log of a session

Whatever operations a session goes through, its query events are the statements that it had handed
to the executor, in order, without those of the introspection. An engine behind the probing executor
is called with them made bare, and once more after each failure; if the tables have plain names, the
statements are bare as they stand, so the log is what the engine was called with
(`Operation.runAll_logged`).
-/

namespace RowParity

variable {σ : Type} {x : Executor σ}

/-! ## Handing over -/

/-- The session has come on by nothing but handing over statements and reporting. -/
def Session.Hands (x : Executor σ) (s s' : Session σ) : Prop :=
  ∃ handovers, Handed x s.toLink handovers s'.toLink

theorem Session.hands_frame (x : Executor σ) : Frame x (Session.Hands x) where
  refl s := ⟨[], .done s.toLink⟩
  trans s s₁ s' h h' := by
    obtain ⟨handovers, hhanded⟩ := h
    obtain ⟨others, hothers⟩ := h'
    exact ⟨handovers ++ others, hhanded.append hothers⟩
  execute sql s := by
    rw [Action.execute_result]
    exact ⟨_, .queried .execute rfl (.done _)⟩
  fetch sql s := by
    rw [Action.fetch_result]
    exact ⟨_, .queried .fetch rfl (.done _)⟩
  draw _ s := ⟨[], .done s.toLink⟩
  report _ other _ := ⟨[], .reported other (.done _)⟩

theorem Session.renewSchema_hands (x : Executor σ) :
    (Action.renewSchema x).Within (Session.Hands x) RunError.IsLoss := by
  refine (Session.hands_frame x).renewSchema (fun s => ?_) fun _ s => ⟨[], .done s.toLink⟩
  obtain ⟨exchanges, hexchanged, -⟩ := Introspection.readSchema_follows x s.toLink
  exact Handed.of_exchanged hexchanged

/-- From `s` to `s'` these statements were handed over, and the log tells those of the session. -/
structure Session.Logged (x : Executor σ) (s : Session σ) (handovers : List Handover)
    (s' : Session σ) : Prop where
  handed : Handed x s.toLink handovers s'.toLink
  sent_eq : s'.transcript.toList = s.transcript.toList ++ handovers.map Handover.sent
  queries_eq : s'.journal.queries = s.journal.queries ++ handovers.filterMap Handover.query?

/-- The queries among the handovers are the statements that the session has issued. -/
theorem Handed.bare_eq {s s' : Session σ} {handovers : List Handover}
    (h : Handed x s.toLink handovers s'.toLink) (hbare : s.Issues Sql.IsBare s') :
    ∀ handover ∈ handovers, ∀ sql, handover.query? = some sql → Sql.bare sql = sql := by
  obtain ⟨sqls, hsqls, hall⟩ := hbare
  have hqueries : sqls = handovers.filterMap Handover.query? :=
    List.append_cancel_left (hsqls.symm.trans h.statements_eq)
  intro handover hmember sql hsql
  refine (hall sql ?_).bare_eq
  rw [hqueries]
  exact List.mem_filterMap.2 ⟨handover, hmember, hsql⟩

namespace Operation

theorem runAll_hands (x : Executor σ) (ops : List Operation) :
    (runAll x ops).Keeps (Session.Hands x) :=
  runAll_keeps (Session.hands_frame x) (fun _ => Session.renewSchema_hands x)
    fun _ _ s => ⟨[], .done s.toLink⟩

theorem exists_logged (x : Executor σ) (ops : List Operation) (s : Session σ) :
    ∃ handovers, s.Logged x handovers (runAll x ops s).2 := by
  obtain ⟨handovers, hhanded⟩ := runAll_hands x ops s
  exact ⟨handovers, hhanded, hhanded.transcript_eq, hhanded.queries_eq⟩

/-! ## Bare statements -/

theorem Sends.isBare {op : Operation} {schema : Schema} {sql : String}
    (hplain : schema.HasPlainTables) (h : op.Sends schema sql) : Sql.IsBare sql := by
  cases op with
  | fill millis =>
    rcases h with h | ⟨table, h⟩
    · exact h.isBare
    · exact h.isBare
  | addRow table => exact Table.YieldsRow.isBare h
  | renew => exact h.elim
  | topUp | update | check => exact Schema.Yields.isBare hplain h

theorem runAll_issues_bare (x : Executor σ) {ops : List Operation} {s : Session σ}
    (hplain : ∀ schema ∈ schemas x ops s, schema.HasPlainTables) :
    s.Issues Sql.IsBare (runAll x ops s).2 := by
  induction ops generalizing s with
  | nil => exact .refl s
  | cons op ops ih =>
    obtain ⟨hfirst, hothers⟩ := List.forall_mem_cons.1 hplain
    exact ((run_issues x op s).imp fun _ h => h.isBare hfirst).trans (ih hothers)

/-- **The log is complete and faithful.** Whatever the executor answers and whatever the operations
come to, the query events are the statements of the session in the order in which they were handed
over. Behind the probing executor an engine is called with each statement made bare and, if that
failed, with the probe; if all tables have plain names, what was logged was bare already. -/
theorem runAll_logged (ops : List Operation) :
    (∀ (σ : Type) (x : Executor σ) (s : Session σ),
      ∃ handovers, s.Logged x handovers (runAll x ops s).2) ∧
      ∀ (σ : Type) (engine : Engine σ) (s : Session (σ × List String)),
        let x := engine.recorded.probing
        let s' := (runAll x ops s).2
        ∃ handovers, s.Logged x handovers s' ∧
          s'.engine.2 = s.engine.2 ++ handovers.flatMap Handover.calls ∧
          ((∀ schema ∈ schemas x ops s, schema.HasPlainTables) →
            ∀ handover ∈ handovers, ∀ sql, handover.query? = some sql → Sql.bare sql = sql) := by
  refine ⟨fun σ x s => exists_logged x ops s, fun σ engine s => ?_⟩
  obtain ⟨handovers, hlogged⟩ := exists_logged engine.recorded.probing ops s
  refine ⟨handovers, hlogged, hlogged.handed.calls_eq, fun hplain => ?_⟩
  exact hlogged.handed.bare_eq (runAll_issues_bare _ hplain)

/-- An engine that is there and rejects every statement but the probe. -/
def contrary : Engine Unit where
  call sql := pure (if sql = Engine.probeStatement then .ok {} else .error "no")
  isConnected _ := true

def contrarySession : Session (Unit × List String) :=
  { Session.start ⟨((), []), {}, #[]⟩ 7 with schema := ⟨[.plain "t" [.declared "a" "INT"]]⟩ }

theorem runAll_logged_contrary :
    let x := contrary.recorded.probing
    let s' := (runAll x [.topUp, .update, .check (.alone none)] contrarySession).2
    ∃ handovers, contrarySession.Logged x handovers s' ∧
      s'.engine.2 = contrarySession.engine.2 ++ handovers.flatMap Handover.calls ∧
      ∀ handover ∈ handovers, ∀ sql, handover.query? = some sql → Sql.bare sql = sql := by
  obtain ⟨handovers, hlogged, hcalls, hbare⟩ :=
    (runAll_logged [.topUp, .update, .check (.alone none)]).2 Unit contrary contrarySession
  refine ⟨handovers, hlogged, hcalls, hbare fun schema hschema => ?_⟩
  rw [schemas_eq_of_mem (by simp [renews]) schema hschema]
  exact List.forall_mem_singleton.2 (by decide)

end Operation

end RowParity
