import RowParity.Proofs.Campaign.Rounds
import RowParity.Proofs.Check.Memory

/-!
# Suites run their members in order

The check of a suite goes through stages, one for each member, and each stage starts on the shared
state that the one before has left. The suite ends with the first stage that fails: later members
stay as they were, the error is that of the stage, and the query beside it that of its member. If no
stage fails the suite passes, with the query of its last member (`Suite.check_in_order`). None of
this depends on what the members are, nor on which of them was run last before. Members of different
sorts are states of one oracle over the sum of the sorts.

The panel of a campaign counts one check for every stage.
-/

namespace RowParity

/-- The check of one member: what it comes to, and the member and the shared state afterwards. -/
structure Stage (S τ : Type) where
  result : Except RunError Unit
  member : τ
  state : S

namespace Stage

variable {S τ : Type}

/-- The shared state after these stages. -/
def left (s : S) (stages : List (Stage S τ)) : S :=
  (stages.getLast?.map state).getD s

theorem left_cons (s : S) (stage : Stage S τ) (stages : List (Stage S τ)) :
    left s (stage :: stages) = left stage.state stages := by
  unfold left
  cases stages with
  | nil => rfl
  | cons next others => rw [List.getLast?_cons_cons]; rfl

theorem getLast?_take {stages : List (Stage S τ)} {i : Nat} {stage : Stage S τ}
    (h : stages[i]? = some stage) : (stages.take (i + 1)).getLast? = some stage := by
  rw [List.take_add_one, h, Option.toList_some, List.getLast?_concat]

theorem left_take {s : S} {stages : List (Stage S τ)} {i : Nat} {stage : Stage S τ}
    (h : stages[i]? = some stage) : left s (stages.take (i + 1)) = stage.state := by
  rw [left, getLast?_take h]
  rfl

def AllPass (stages : List (Stage S τ)) : Prop :=
  ∀ stage ∈ stages, stage.result = .ok ()

theorem allPass_cons {stage : Stage S τ} {stages : List (Stage S τ)} :
    AllPass (stage :: stages) ↔ stage.result = .ok () ∧ AllPass stages :=
  List.forall_mem_cons

/-- The stage at this place is the first one that fails. -/
structure FailsAt (stages : List (Stage S τ)) (i : Nat) (stage : Stage S τ) (e : RunError) :
    Prop where
  at_place : stages[i]? = some stage
  failed : stage.result = .error e
  earlier : AllPass (stages.take i)

theorem allPass_or_failsAt (stages : List (Stage S τ)) :
    AllPass stages ∨ ∃ i stage e, FailsAt stages i stage e := by
  induction stages with
  | nil => exact .inl (List.forall_mem_nil _)
  | cons first stages ih =>
    cases hfirst : first.result with
    | error e => exact .inr ⟨0, first, e, rfl, hfirst, List.forall_mem_nil _⟩
    | ok _ =>
      rcases ih with hall | ⟨i, stage, e, hplace, hfailed, hearlier⟩
      · exact .inl (allPass_cons.2 ⟨hfirst, hall⟩)
      · exact .inr ⟨i + 1, stage, e, hplace, hfailed, allPass_cons.2 ⟨hfirst, hearlier⟩⟩

end Stage

namespace Suite

variable {S τ : Type}

section members

variable (o : Oracle S τ)

/-- The stages of these members, as if none of them stopped the others. -/
def stages : List τ → S → List (Stage S τ)
  | [], _ => []
  | member :: members, s =>
    let checked := o.check member s
    ⟨checked.1.1, checked.1.2, checked.2⟩ :: stages members checked.2

theorem length_stages (members : List τ) (s : S) :
    (stages o members s).length = members.length := by
  induction members generalizing s with
  | nil => rfl
  | cons member members ih => rw [stages, List.length_cons, ih, List.length_cons]

end members

variable {o : Oracle S τ}

/-- If no stage fails, all members are run. -/
theorem runMembers_allPass {members : List τ} {s : S} (h : Stage.AllPass (stages o members s)) :
    runMembers o members s =
      ((.ok (), (stages o members s).map Stage.member, members.length),
        Stage.left s (stages o members s)) := by
  induction members generalizing s with
  | nil => rfl
  | cons member members ih =>
    obtain ⟨hfirst, hothers⟩ := Stage.allPass_cons.1 h
    have hrun := ih hothers
    rw [runMembers_cons_apply, stages, Stage.left_cons]
    rcases hchecked : o.check member s with ⟨⟨result, member'⟩, s₁⟩
    rw [hchecked] at hfirst hrun
    cases hfirst
    dsimp only at hrun ⊢
    rw [hrun]
    rfl

/-- The first stage that fails is the last one, and later members stay as they were. -/
theorem runMembers_failsAt {members : List τ} {s : S} {i : Nat} {stage : Stage S τ} {e : RunError}
    (h : Stage.FailsAt (stages o members s) i stage e) :
    runMembers o members s =
      ((.error e, ((stages o members s).take (i + 1)).map Stage.member ++ members.drop (i + 1),
        i + 1), stage.state) := by
  obtain ⟨hplace, hfailed, hearlier⟩ := h
  induction members generalizing s i with
  | nil => cases hplace
  | cons member members ih =>
    rw [runMembers_cons_apply]
    rw [stages] at hplace hearlier ⊢
    rcases hchecked : o.check member s with ⟨⟨result, member'⟩, s₁⟩
    rw [hchecked] at hplace hearlier
    cases i with
    | zero =>
      cases hplace
      cases hfailed
      rfl
    | succ i =>
      obtain ⟨hfirst, hothers⟩ := Stage.allPass_cons.1 hearlier
      cases hfirst
      dsimp only
      rw [ih hplace hothers]
      rfl

theorem allPass_of_ok {members : List τ} {s : S} (h : (runMembers o members s).1.1 = .ok ()) :
    Stage.AllPass (stages o members s) := by
  rcases Stage.allPass_or_failsAt (stages o members s) with hall | ⟨i, stage, e, hfails⟩
  · exact hall
  · rw [runMembers_failsAt hfails] at h
    cases h

theorem failsAt_of_error {members : List τ} {s : S} {e : RunError}
    (h : (runMembers o members s).1.1 = .error e) :
    ∃ i stage, Stage.FailsAt (stages o members s) i stage e := by
  rcases Stage.allPass_or_failsAt (stages o members s) with hall | ⟨i, stage, e', hfails⟩
  · rw [runMembers_allPass hall] at h
    cases h
  · rw [runMembers_failsAt hfails] at h
    cases h
    exact ⟨i, stage, hfails⟩

theorem length_runMembers (o : Oracle S τ) (members : List τ) (s : S) :
    (runMembers o members s).1.2.1.length = members.length := by
  rcases Stage.allPass_or_failsAt (stages o members s) with hall | ⟨i, stage, e, hfails⟩
  · rw [runMembers_allPass hall, List.length_map, length_stages]
  · rw [runMembers_failsAt hfails, List.length_append, List.length_map, List.length_take,
      length_stages, List.length_drop]
    omega

/-! ## The check of a suite -/

/-- What is left of a suite when these of its stages have been gone through. -/
structure LeftAfter (o : Oracle S τ) (suite : Suite τ) (s : S) (done : List (Stage S τ))
    (suite' : Suite τ) (s' : S) : Prop where
  /-- The members that were not run are as they were. -/
  members : suite'.members = done.map Stage.member ++ suite.members.drop done.length
  state : s' = Stage.left s done
  /-- The query of the suite is that of the member run last. -/
  lastQuery : ∀ stage, done.getLast? = some stage → lastQuery o suite' = o.lastQuery stage.member
  nothing : done = [] → suite' = suite

theorem check_apply (o : Oracle S τ) (suite : Suite τ) (s : S) :
    check o suite s =
      let run := runMembers o suite.members s
      ((run.1.1, ⟨run.1.2.1, if run.1.2.2 = 0 then suite.last else some (run.1.2.2 - 1)⟩),
        run.2) := rfl

/-- A suite that has run as many members as there are stages done remembers the last of them. -/
theorem leftAfter_of_run {suite : Suite τ} {s : S} {done : List (Stage S τ)}
    {result : Except RunError Unit}
    (h : runMembers o suite.members s =
      ((result, done.map Stage.member ++ suite.members.drop done.length, done.length),
        Stage.left s done)) :
    (check o suite s).1.1 = result ∧
      LeftAfter o suite s done (check o suite s).1.2 (check o suite s).2 := by
  rw [check_apply, h]
  refine ⟨rfl, rfl, rfl, fun stage hlast => ?_, fun hnone => ?_⟩
  · have hne : done ≠ [] := by
      intro hnil
      rw [hnil] at hlast
      cases hlast
    have hpos : 0 < done.length := List.length_pos_iff.2 hne
    have hplace : done[done.length - 1]? = some stage := by
      rw [← List.getLast?_eq_getElem?]
      exact hlast
    have hmember : (done.map Stage.member ++ suite.members.drop done.length)[done.length - 1]? =
        some stage.member := by
      rw [List.getElem?_append_left (by rw [List.length_map]; omega), List.getElem?_map, hplace]
      rfl
    simp [lastQuery, hne, hmember]
  · subst hnone
    rfl

theorem check_allPass {suite : Suite τ} {s : S} (h : Stage.AllPass (stages o suite.members s)) :
    (check o suite s).1.1 = .ok () ∧
      LeftAfter o suite s (stages o suite.members s) (check o suite s).1.2 (check o suite s).2 := by
  apply leftAfter_of_run
  rw [runMembers_allPass h, length_stages, List.drop_length, List.append_nil]

theorem check_failsAt {suite : Suite τ} {s : S} {i : Nat} {stage : Stage S τ} {e : RunError}
    (h : Stage.FailsAt (stages o suite.members s) i stage e) :
    (check o suite s).1.1 = .error e ∧
      LeftAfter o suite s ((stages o suite.members s).take (i + 1)) (check o suite s).1.2
        (check o suite s).2 := by
  have hlength : ((stages o suite.members s).take (i + 1)).length = i + 1 := by
    obtain ⟨hplace, -⟩ := List.getElem?_eq_some_iff.1 h.at_place
    rw [List.length_take]
    omega
  apply leftAfter_of_run
  rw [runMembers_failsAt h, hlength, Stage.left_take h.at_place]

end Suite

/-! ## The check of a panel -/

variable {σ : Type}

/-- Every stage counts one check. -/
theorem Check.oracle_checks (x : Executor σ) (memory : Check.Memory) (s : Session σ) :
    ((Check.oracle x).check memory s).2.stats.checks = s.stats.checks + 1 := by
  show (Check.run x memory s).2.stats.checks = _
  rw [Check.run_stats, Stats.checks_after]

namespace Suite

theorem stages_checks (x : Executor σ) {members : List Check.Memory} {s : Session σ} {i : Nat}
    {stage : Stage (Session σ) Check.Memory}
    (h : (stages (Check.oracle x) members s)[i]? = some stage) :
    stage.state.stats.checks = s.stats.checks + (i + 1) := by
  induction members generalizing s i with
  | nil => cases h
  | cons memory members ih =>
    cases i with
    | zero =>
      cases h
      exact Check.oracle_checks x memory s
    | succ i =>
      rw [ih h, Check.oracle_checks]
      omega

theorem left_checks (x : Executor σ) (members : List Check.Memory) (s : Session σ) :
    (Stage.left s (stages (Check.oracle x) members s)).stats.checks =
      s.stats.checks + members.length := by
  induction members generalizing s with
  | nil => rfl
  | cons memory members ih =>
    rw [stages, Stage.left_cons, ih, Check.oracle_checks, List.length_cons]
    omega

end Suite

namespace Panel

/-- A panel runs its members as a suite does, also if there is only one. -/
theorem check_members (x : Executor σ) (panel : Panel) (s : Session σ) :
    ((Panel.oracle x).check panel s).1.1 =
        (Suite.runMembers (Check.oracle x) panel.memories s).1.1 ∧
      ((Panel.oracle x).check panel s).1.2.memories =
        (Suite.runMembers (Check.oracle x) panel.memories s).1.2.1 ∧
      ((Panel.oracle x).check panel s).2 =
        (Suite.runMembers (Check.oracle x) panel.memories s).2 := by
  cases panel with
  | suite members => exact ⟨rfl, rfl, rfl⟩
  | alone memory =>
    have halone : (Panel.oracle x).check (.alone memory) s =
        (((Check.run x memory s).1.1.map fun _ => (), .alone (Check.run x memory s).1.2),
          (Check.run x memory s).2) := rfl
    rw [halone, memories, Suite.runMembers_cons]
    rcases Check.run x memory s with ⟨⟨_ | _, _⟩, _⟩
    · exact ⟨rfl, rfl, rfl⟩
    · exact ⟨rfl, rfl, rfl⟩

theorem length_memories_check (x : Executor σ) (panel : Panel) (s : Session σ) :
    ((Panel.oracle x).check panel s).1.2.memories.length = panel.memories.length := by
  obtain ⟨-, hmemories, -⟩ := check_members x panel s
  rw [hmemories, Suite.length_runMembers]

/-- The panel after these checks, one after the other. -/
def afterChecks (panel : Panel) (starts : List (Check.Start σ)) : Panel :=
  starts.foldl (fun panel start => ((Panel.oracle start.1).check panel start.2).1.2) panel

theorem length_memories_ofKinds (kinds : List OracleKind) :
    (Panel.ofKinds kinds).memories.length = max 1 kinds.length := by
  rw [← Panel.size_ofKinds]
  cases Panel.ofKinds kinds with
  | alone memory => rfl
  | suite members => rfl

theorem length_memories_afterChecks (panel : Panel) (starts : List (Check.Start σ)) :
    (panel.afterChecks starts).memories.length = panel.memories.length := by
  induction starts generalizing panel with
  | nil => rfl
  | cons start starts ih =>
    rw [afterChecks, List.foldl_cons]
    exact (ih _).trans (length_memories_check start.1 panel start.2)

theorem check_ok_checks {x : Executor σ} {panel : Panel} {s : Session σ}
    (h : ((Panel.oracle x).check panel s).1.1 = .ok ()) :
    ((Panel.oracle x).check panel s).2.stats.checks = s.stats.checks + panel.memories.length := by
  obtain ⟨hresult, -, hstate⟩ := check_members x panel s
  rw [hresult] at h
  rw [hstate, Suite.runMembers_allPass (Suite.allPass_of_ok h), Suite.left_checks]

theorem check_error_checks {x : Executor σ} {panel : Panel} {s : Session σ} {e : RunError}
    (h : ((Panel.oracle x).check panel s).1.1 = .error e) :
    ∃ i stage, Stage.FailsAt (Suite.stages (Check.oracle x) panel.memories s) i stage e ∧
      ((Panel.oracle x).check panel s).2.stats.checks = s.stats.checks + (i + 1) := by
  obtain ⟨hresult, -, hstate⟩ := check_members x panel s
  rw [hresult] at h
  obtain ⟨i, stage, hfails⟩ := Suite.failsAt_of_error h
  refine ⟨i, stage, hfails, ?_⟩
  rw [hstate, Suite.runMembers_failsAt hfails, Suite.stages_checks x hfails.at_place]

end Panel

/-! ## Any suite -/

namespace Suite

/-- **A suite runs its members in order and stops at the first failure.** It passes if every stage
does, and else comes to the error of the first one that fails; in both cases it is left as the
stages gone through have left it. The suite may be one that has been checked before. A panel counts
a check for every stage gone through, also after any earlier checks. -/
theorem check_in_order :
    (∀ (S τ : Type) (o : Oracle S τ) (suite : Suite τ) (s : S),
      ((o.suite.check suite s).1.1 = .ok () ↔ Stage.AllPass (stages o suite.members s)) ∧
        ((o.suite.check suite s).1.1 = .ok () →
          LeftAfter o suite s (stages o suite.members s) (o.suite.check suite s).1.2
            (o.suite.check suite s).2) ∧
        ∀ e, (o.suite.check suite s).1.1 = .error e →
          ∃ i stage, Stage.FailsAt (stages o suite.members s) i stage e ∧
            LeftAfter o suite s ((stages o suite.members s).take (i + 1))
              (o.suite.check suite s).1.2 (o.suite.check suite s).2 ∧
            o.suite.lastQuery (o.suite.check suite s).1.2 = o.lastQuery stage.member) ∧
      ∀ (σ : Type) (x : Executor σ) (kinds : List OracleKind) (earlier : List (Check.Start σ))
        (s : Session σ),
        let panel := (Panel.ofKinds kinds).afterChecks earlier
        let checked := (Panel.oracle x).check panel s
        panel.memories.length = max 1 kinds.length ∧
          (checked.1.1 = .ok () →
            checked.2.stats.checks = s.stats.checks + max 1 kinds.length) ∧
          ∀ e, checked.1.1 = .error e →
            ∃ i stage, Stage.FailsAt (stages (Check.oracle x) panel.memories s) i stage e ∧
              checked.2.stats.checks = s.stats.checks + (i + 1) := by
  constructor
  · intro S τ o suite s
    refine ⟨⟨fun hok => allPass_of_ok hok, fun hall => (check_allPass hall).1⟩, fun hok => ?_,
      fun e herror => ?_⟩
    · exact (check_allPass (allPass_of_ok hok)).2
    · obtain ⟨i, stage, hfails⟩ := failsAt_of_error herror
      obtain ⟨-, hleft⟩ := check_failsAt hfails
      exact ⟨i, stage, hfails, hleft, hleft.lastQuery stage (Stage.getLast?_take hfails.at_place)⟩
  · intro σ x kinds earlier s panel checked
    have hlength : panel.memories.length = max 1 kinds.length :=
      (Panel.length_memories_afterChecks _ earlier).trans (Panel.length_memories_ofKinds kinds)
    refine ⟨hlength, fun hok => ?_, fun e => Panel.check_error_checks⟩
    rw [← hlength]
    exact Panel.check_ok_checks hok

/-- Members that count their checks, and members that fail if the shared number is even. -/
def tallyOrFail : Oracle Nat (Nat ⊕ String) where
  check
    | .inl count => fun n => ((.ok (), .inl (count + 1)), n + 1)
    | .inr name => fun n =>
      ((if n % 2 = 0 then .error (.precondition name) else .ok (), .inr (name ++ "!")), n)
  lastQuery
    | .inl count => some (toString count)
    | .inr name => some name

/-- The suite has been run to its last member before, and now the second one fails. -/
theorem check_in_order_tallyOrFail :
    let suite : Suite (Nat ⊕ String) := ⟨[.inl 0, .inr "even", .inl 7], some 2⟩
    let panel : Panel := (Panel.ofKinds [.noRec, .noRec]).afterChecks [Check.ordersStart]
    let s := Check.ordersStart.2
    (∃ i stage, Stage.FailsAt (stages tallyOrFail suite.members 3) i stage (.precondition "even") ∧
        LeftAfter tallyOrFail suite 3 ((stages tallyOrFail suite.members 3).take (i + 1))
          ⟨[.inl 1, .inr "even!", .inl 7], some 1⟩ 4 ∧
        some "even!" = tallyOrFail.lastQuery stage.member) ∧
      ((Panel.oracle Check.emptyHanded).check panel s).2.stats.checks = 2 ∧
      ∃ i stage, Stage.FailsAt
          (stages (Check.oracle Check.emptyHanded) panel.memories (Check.sessionWith [])) i stage
          (.precondition "no tables available in schema") := by
  intro suite panel s
  obtain ⟨hsuites, hpanels⟩ := check_in_order
  obtain ⟨-, -, hfailed⟩ := hsuites Nat (Nat ⊕ String) tallyOrFail suite 3
  obtain ⟨-, hpassed, -⟩ := hpanels Unit Check.emptyHanded [.noRec, .noRec] [Check.ordersStart] s
  obtain ⟨-, -, hstopped⟩ :=
    hpanels Unit Check.emptyHanded [.noRec, .noRec] [Check.ordersStart] (Check.sessionWith [])
  have hok : ((Panel.oracle Check.emptyHanded).check panel s).1.1 = .ok () := by decide +kernel
  have herror : ((Panel.oracle Check.emptyHanded).check panel (Check.sessionWith [])).1.1 =
      .error (.precondition "no tables available in schema") := by decide +kernel
  obtain ⟨i, stage, hfails, -⟩ := hstopped _ herror
  exact ⟨hfailed _ rfl, hpassed hok, i, stage, hfails⟩

end Suite

end RowParity
