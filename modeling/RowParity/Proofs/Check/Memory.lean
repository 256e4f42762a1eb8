import RowParity.Proofs.Campaign.Accounting
import RowParity.Proofs.Check.Decision
import RowParity.Proofs.Check.Transcript

/-!
# What a check remembers

The query that is named beside the error of a check is the last one that the check sent. A check
that sends nothing, for want of a table or of a column, leaves the memory as it was, so its error is
reported with the last query of an earlier check, if there was one (`run_error_told`). In a campaign
that query belongs to the same database, since the memory starts out empty there.
-/

namespace RowParity

variable {σ : Type}

namespace Check

/-- A check, by the executor and the session that it starts with. -/
abbrev Start (σ : Type) : Type :=
  Executor σ × Session σ

/-- What is remembered after these checks, one after the other. -/
def remembered (memory : Memory) (starts : List (Start σ)) : Memory :=
  starts.foldl (fun memory start => (run start.1 memory start.2).1.2) memory

/-- A check ends with the memory of its last query, if it compared any. -/
theorem run_memory (x : Executor σ) (memory : Memory) (s : Session σ) :
    (run x memory s).1.2 = (queries x s).getLast?.or memory := by
  rw [run_apply]
  rcases answered_or_stopped x (opened s) with ⟨base, _, _, _, hcourse⟩ | ⟨e, sql, _, hcourse⟩
  · obtain ⟨plans, hsent⟩ := hcourse.sent_eq_append
    rw [hcourse.drawAndCompare_eq, queries, hsent]
    rfl
  · obtain ⟨hlength, hlast⟩ := hcourse.sent_getLast?
    rw [hcourse.drawAndCompare_eq, queries, List.take_of_length_le hlength, hlast]

theorem remembered_eq (memory : Memory) (starts : List (Start σ)) :
    remembered memory starts =
      (starts.flatMap fun start => queries start.1 start.2).getLast?.or memory := by
  induction starts generalizing memory with
  | nil => rfl
  | cons start starts ih =>
    have hfirst := run_memory start.1 memory start.2
    have hothers := ih (run start.1 memory start.2).1.2
    unfold remembered at hothers ⊢
    rw [List.foldl_cons, hothers, hfirst, List.flatMap_cons, List.getLast?_append, Option.or_assoc]

/-- What stands beside the error of a check that came after these earlier checks. -/
structure Told (earlier : List (Start σ)) (x : Executor σ) (s : Session σ) (e : RunError)
    (lastQuery : Memory) (s' : Session σ) : Prop where
  /-- The last statement of the check, if it sent any. -/
  own : sent x s ≠ [] → lastQuery = (sent x s).getLast?
  /-- Else the last query of the earlier checks. -/
  stale : sent x s = [] →
    lastQuery = (earlier.flatMap fun start => queries start.1 start.2).getLast?
  /-- The error is reported with that query, unless the connection is lost. -/
  reported : e.isDisconnect = false →
    s'.journal.events.getLast? = some (.exception e.message lastQuery)

theorem run_error_lastQuery {x : Executor σ} {memory : Memory} {s : Session σ} {e : RunError}
    (h : (run x memory s).1.1 = .error e) :
    (run x memory s).1.2 = (sent x s).getLast?.or memory := by
  obtain ⟨sql, s₁, hcourse, -⟩ := run_error_genuine memory h
  obtain ⟨-, hlast⟩ := hcourse.sent_getLast?
  rw [run_apply, hcourse.drawAndCompare_eq, hlast]

theorem run_error_reported {x : Executor σ} {memory : Memory} {s : Session σ} {e : RunError}
    (h : (run x memory s).1.1 = .error e) (he : e.isDisconnect = false) :
    (run x memory s).2.journal.events.getLast? =
      some (.exception e.message (run x memory s).1.2) := by
  obtain ⟨sql, s₁, hcourse, hgenuine⟩ := run_error_genuine memory h
  rw [run_apply, hcourse.drawAndCompare_eq, settle_genuine hgenuine, he]
  show (s₁.journal.log _).events.getLast? = _
  rw [Journal.events_log, List.getLast?_concat]

theorem run_error_told {earlier : List (Start σ)} {x : Executor σ} {s : Session σ} {e : RunError}
    (h : (run x (remembered none earlier) s).1.1 = .error e) :
    Told earlier x s e (run x (remembered none earlier) s).1.2
      (run x (remembered none earlier) s).2 := by
  have hlast := run_error_lastQuery h
  refine ⟨fun hne => ?_, fun hnil => ?_, run_error_reported h⟩
  · rw [hlast, List.getLast?_eq_some_getLast hne, Option.some_or]
  · rw [hlast, hnil, remembered_eq, Option.or_none]
    rfl

end Check

/-! ## Memories in a campaign -/

/-- The verdicts were reached one after the other, each by a check whose memory was known at the
start or was left by an earlier one. -/
inductive Chained (x : Executor σ) : List Check.Memory → List Verdict → Prop
  | nil {known : List Check.Memory} : Chained x known []
  | cons {known : List Check.Memory} {memory : Check.Memory} {s : Session σ}
      {verdicts : List Verdict} (hmemory : memory ∈ known)
      (rest : Chained x ((Check.run x memory s).1.2 :: known) verdicts) :
      Chained x known ((Check.run x memory s).1 :: verdicts)

namespace Chained

variable {x : Executor σ}

theorem mono {known known' : List Check.Memory} {verdicts : List Verdict}
    (h : Chained x known verdicts) (hsub : known ⊆ known') : Chained x known' verdicts := by
  induction h generalizing known' with
  | nil => exact .nil
  | cons hmemory _ ih => exact .cons (hsub hmemory) (ih (List.cons_subset_cons _ hsub))

theorem append {known : List Check.Memory} {earlier verdicts : List Verdict}
    (h : Chained x known earlier)
    (h' : Chained x (earlier.map Prod.snd ++ known) verdicts) :
    Chained x known (earlier ++ verdicts) := by
  induction h with
  | nil => exact h'
  | @cons known memory s earlier hmemory _ ih =>
    refine .cons hmemory (ih (h'.mono ?_))
    -- The memory of the first verdict only changes its place.
    rw [List.map_cons, List.cons_append]
    exact List.perm_middle.symm.subset

theorem of_append {known : List Check.Memory} {earlier verdicts : List Verdict}
    (h : Chained x known (earlier ++ verdicts)) : Chained x known earlier := by
  induction earlier generalizing known with
  | nil => exact .nil
  | cons first earlier ih =>
    cases h with
    | cons hmemory rest => exact .cons hmemory (ih rest)

/-- Where the memory of the last check comes from. -/
theorem of_concat {known : List Check.Memory} {earlier : List Verdict} {verdict : Verdict}
    (h : Chained x known (earlier ++ [verdict])) :
    ∃ memory s, (Check.run x memory s).1 = verdict ∧
      (memory ∈ known ∨ ∃ v ∈ earlier, v.2 = memory) := by
  induction earlier generalizing known with
  | nil =>
    cases h with
    | cons hmemory _ => exact ⟨_, _, rfl, .inl hmemory⟩
  | cons first earlier ih =>
    cases h with
    | cons hmemory rest =>
      obtain ⟨memory, s, hrun, hknown | ⟨v, hv, hmem⟩⟩ := ih rest
      · rcases List.mem_cons.1 hknown with rfl | hknown
        · exact ⟨_, s, hrun, .inr ⟨_, List.mem_cons_self, rfl⟩⟩
        · exact ⟨memory, s, hrun, .inl hknown⟩
      · exact ⟨memory, s, hrun, .inr ⟨v, List.mem_cons_of_mem _ hv, hmem⟩⟩

end Chained

/-- The memories that a panel starts its next check with. -/
def Panel.memories : Panel → List Check.Memory
  | .alone memory => [memory]
  | .suite members => members.members

theorem Suite.verdicts_chained (x : Executor σ) (members known : List Check.Memory)
    (s : Session σ) (h : members ⊆ known) :
    Chained x known (Suite.verdicts x members s) ∧
      (runMembers (Check.oracle x) members s).1.2.1 ⊆
        (Suite.verdicts x members s).map Prod.snd ++ known := by
  induction members generalizing known s with
  | nil => exact ⟨.nil, List.nil_subset _⟩
  | cons memory members ih =>
    obtain ⟨hmemory, hmembers⟩ := List.cons_subset.1 h
    rw [runMembers_cons, Suite.verdicts]
    have hfirst := @Chained.cons σ x known memory s [] hmemory .nil
    have hothers (verdicts : List Verdict) := @Chained.cons σ x known memory s verdicts hmemory
    rcases hrun : Check.run x memory s with ⟨⟨e | outcome, memory'⟩, s₁⟩
    · rw [hrun] at hfirst
      refine ⟨hfirst, List.cons_subset.2 ⟨List.mem_cons_self, ?_⟩⟩
      exact List.Subset.trans hmembers (List.subset_cons_self _ _)
    · rw [hrun] at hothers
      obtain ⟨hchained, hleft⟩ :=
        ih (memory' :: known) s₁ (List.Subset.trans hmembers (List.subset_cons_self _ _))
      refine ⟨hothers _ hchained, List.cons_subset.2 ⟨List.mem_cons_self, ?_⟩⟩
      exact List.Subset.trans hleft List.perm_middle.subset

theorem Panel.verdicts_chained (x : Executor σ) (panel : Panel) (known : List Check.Memory)
    (s : Session σ) (h : panel.memories ⊆ known) :
    Chained x known (panel.verdicts x s) ∧
      ((Panel.oracle x).check panel s).1.2.memories ⊆
        (panel.verdicts x s).map Prod.snd ++ known := by
  cases panel with
  | alone memory =>
    refine ⟨.cons (h List.mem_cons_self) .nil, ?_⟩
    exact List.cons_subset.2 ⟨List.mem_cons_self, List.nil_subset _⟩
  | suite members => exact Suite.verdicts_chained x members.members known s h

namespace Campaign

variable (host : Host σ) (plan : Plan) (deadline : Option Nat)

theorem roundVerdicts_chained (panel : Panel) (known : List Check.Memory) (s : Session σ)
    (h : panel.memories ⊆ known) :
    Chained host.executor known (roundVerdicts host plan panel s) ∧
      (round host plan panel s).1.2.memories ⊆
        (roundVerdicts host plan panel s).map Prod.snd ++ known := by
  rw [roundVerdicts, round_apply]
  rcases (maybeMutate host plan).result s with ⟨_ | _, s₁⟩
  · exact ⟨.nil, h⟩
  · exact Panel.verdicts_chained host.executor panel known s₁ h

theorem roundsVerdicts_chained (n : Nat) (panel : Panel) (known : List Check.Memory)
    (s : Session σ) (h : panel.memories ⊆ known) :
    Chained host.executor known (roundsVerdicts host plan deadline n panel s) := by
  induction n generalizing panel known s with
  | zero => exact .nil
  | succ n ih =>
    rw [roundsVerdicts]
    rcases Step.onLink (budgetSpent host deadline) s with ⟨_ | _, s₁⟩
    · obtain ⟨hround, hleft⟩ := roundVerdicts_chained host plan panel known s₁ h
      refine hround.append ?_
      rcases hrun : round host plan panel s₁ with ⟨⟨_ | _, panel'⟩, s₂⟩
      · exact .nil
      · rw [hrun] at hleft
        exact ih panel' _ s₂ hleft
    · exact .nil

theorem memories_ofKinds (kinds : List OracleKind) :
    (Panel.ofKinds kinds).memories ⊆ [none] := by
  intro memory hmemory
  match kinds with
  | [] => exact hmemory
  | [_] => exact hmemory
  | first :: second :: others =>
    obtain ⟨kind, -, hkind⟩ := List.mem_map.1 hmemory
    rw [← hkind, OracleKind.fresh]
    exact List.mem_cons_self

theorem workVerdicts_chained (s : Session σ) :
    Chained host.executor [none] (workVerdicts host plan deadline s) := by
  unfold workVerdicts
  rcases (prepare host plan).result s with ⟨_ | _, s₁⟩
  · exact .nil
  · exact roundsVerdicts_chained host plan deadline _ _ _ s₁ (memories_ofKinds plan.oracles)

theorem iterations_chained (n number : Nat) (seeds : Random.Source) (report : Report)
    (link : Link σ) : ∀ it ∈ iterations host plan deadline n number seeds report link,
      Chained host.executor [none] it.verdicts := by
  induction n generalizing number seeds report link with
  | zero => simp [iterations]
  | succ n ih =>
    unfold iterations
    split
    · simp
    split
    · simp
    refine List.forall_mem_cons.2 ⟨workVerdicts_chained host plan deadline _, ?_⟩
    split
    · simp
    · exact ih _ _ _ _

/-- The failure is the error of a check, and its query is the last statement of that check. Only for
a check that sent nothing it is what was remembered: nothing, or the query that an earlier check on
the same database ended with. -/
def IsTold (x : Executor σ) (iteration : Iteration) (failure : Failure) : Prop :=
  ∃ earlier later e memory s,
    iteration.verdicts = earlier ++ (.error e, failure.lastQuery) :: later ∧
      (Check.run x memory s).1 = (.error e, failure.lastQuery) ∧
      (Check.sent x s ≠ [] → failure.lastQuery = (Check.sent x s).getLast?) ∧
      (Check.sent x s = [] → failure.lastQuery = memory) ∧
      (memory = none ∨ ∃ v ∈ earlier, v.2 = memory)

theorem isTold_of_mem_failures {x : Executor σ} {iteration : Iteration} {failure : Failure}
    (hchained : Chained x [none] iteration.verdicts) (h : failure ∈ iteration.failures) :
    IsTold x iteration failure := by
  obtain ⟨⟨e, lastQuery⟩, hfailed, rfl⟩ := List.mem_map.1 h
  obtain ⟨⟨result, memory'⟩, hverdict, hresult⟩ := List.mem_filterMap.1 hfailed
  cases result with
  | ok _ => cases hresult
  | error e' =>
    cases hresult
    obtain ⟨earlier, later, hverdicts⟩ := List.append_of_mem hverdict
    rw [hverdicts, List.append_cons] at hchained
    obtain ⟨memory, s, hrun, hmemory⟩ := hchained.of_append.of_concat
    have hlast := Check.run_error_lastQuery (congrArg Prod.fst hrun)
    rw [hrun] at hlast
    refine ⟨earlier, later, e, memory, s, hverdicts, hrun, fun hne => ?_, fun hnil => ?_, ?_⟩
    · rw [List.getLast?_eq_some_getLast hne] at hlast ⊢
      exact hlast
    · rw [hnil] at hlast
      exact hlast
    · exact hmemory.imp List.mem_singleton.1 id

end Campaign

/-! ## Queries beside errors -/

/-- **The query beside an error is the last one that was sent**, though not always by the check that
failed: a check that sends nothing leaves the query of an earlier check in its place. So it is for
one check after another, and for the failures in the report of a campaign. -/
theorem Check.lastQuery_told :
    (∀ (earlier : List (Start σ)) (x : Executor σ) (s : Session σ) (e : RunError),
      (run x (remembered none earlier) s).1.1 = .error e →
        Told earlier x s e (run x (remembered none earlier) s).1.2
          (run x (remembered none earlier) s).2) ∧
      ∀ (host : Host σ) (plan : Plan) (seed : UInt64) (link : Link σ) (report : Report),
        (Campaign.run host plan seed link).1 = .ok report → ∀ failure ∈ report.failures,
          ∃ iteration ∈ Campaign.history host plan seed link,
            Campaign.IsTold host.executor iteration failure := by
  refine ⟨fun earlier x s e => run_error_told, fun host plan seed link report hrun => ?_⟩
  obtain ⟨⟨startedAt, finishedAt, hreport⟩, -⟩ := Campaign.run_report hrun
  intro failure hfailure
  rw [Campaign.foldl_absorb] at hreport
  rw [hreport] at hfailure
  obtain ⟨iteration, hiteration, hmem⟩ := List.mem_flatMap.1 hfailure
  have hchained := Campaign.iterations_chained host plan _ _ _ _ _ _ iteration hiteration
  exact ⟨iteration, hiteration, Campaign.isTold_of_mem_failures hchained hmem⟩

namespace Check

/-- An engine that answers every query with no rows. -/
def emptyHanded : Executor Unit where
  execute _ := pure ⟨.ok (), []⟩
  fetch _ := pure ⟨.ok [], []⟩
  columnNames _ := pure ⟨.ok [], []⟩
  isAlive := pure true

/-- A session with a schema of these tables. -/
def sessionWith (tables : List Table) : Session Unit :=
  { Session.start ⟨(), {}, #[]⟩ 1 with schema := ⟨tables⟩ }

/-- The start of a check on the one table `orders`. -/
def ordersStart : Start Unit :=
  (emptyHanded, sessionWith [.plain "orders" [.declared "note" "VARCHAR(50)"]])

/-- **The query of an earlier check is named.** The second check finds no table and sends nothing,
but its error is reported with the rewritten query of the first. -/
theorem lastQuery_told_ordersStart :
    sent emptyHanded (sessionWith []) = [] ∧
      Told [ordersStart] emptyHanded (sessionWith [])
        (.precondition "no tables available in schema")
        (some "SELECT note FROM orders WHERE 1=1")
        (run emptyHanded (remembered none [ordersStart]) (sessionWith [])).2 := by
  have hfirst : (run ordersStart.1 none ordersStart.2).1.2 =
      some "SELECT note FROM orders WHERE 1=1" := by decide +kernel
  have hrun : (run emptyHanded (remembered none [ordersStart]) (sessionWith [])).1 =
      (.error (.precondition "no tables available in schema"),
        some "SELECT note FROM orders WHERE 1=1") := by
    rw [← hfirst]
    rfl
  have htold := lastQuery_told.1 [ordersStart] emptyHanded (sessionWith [])
    (.precondition "no tables available in schema") (congrArg Prod.fst hrun)
  rw [hrun] at htold
  exact ⟨rfl, htold⟩

end Check

end RowParity
