import RowParity.Proofs.Campaign.Upkeep

/-!
# The history of a campaign

A campaign keeps only sums. Its history is the list of the iterations, each with the verdicts of
all checks that were made on its database, in the order in which they were made. The functions here
follow the campaign and note what each check came to; they use the campaign's own functions for
every session they pass through. How the work on a database ended can be read off its verdicts
(`Ended`).
-/

namespace RowParity

variable {σ : Type}

/-! ## Verdicts -/

/-- What one check came to: the result, and the query that was sent last. -/
abbrev Verdict : Type :=
  Except RunError Outcome × Check.Memory

namespace Verdict

def isPass : Verdict → Bool
  | (.ok (.pass _), _) => true
  | _ => false

def isExpected : Verdict → Bool
  | (.ok (.expectedError ..), _) => true
  | _ => false

def finding? : Verdict → Option Finding
  | (.ok (.mismatch f), _) => some f
  | _ => none

/-- The error that the check failed with, and the query that was sent last. -/
def failure? : Verdict → Option (RunError × Option String)
  | (.error e, memory) => some (e, memory)
  | _ => none

def IsSettled (verdict : Verdict) : Prop :=
  verdict.failure? = none

end Verdict

def Stats.afterAll (stats : Stats) (verdicts : List Verdict) : Stats :=
  verdicts.foldl (fun stats verdict => stats.after verdict.1) stats

/-- The verdicts of the members of a suite that are run, up to the first failure. -/
def Suite.verdicts (x : Executor σ) : List Check.Memory → Session σ → List Verdict
  | [], _ => []
  | memory :: members, s =>
    match Check.run x memory s with
    | ((.error e, memory), _) => [(.error e, memory)]
    | ((.ok outcome, memory), s) => (.ok outcome, memory) :: verdicts x members s

def Panel.verdicts (x : Executor σ) : Panel → Session σ → List Verdict
  | .alone memory, s => [(Check.run x memory s).1]
  | .suite members, s => Suite.verdicts x members.members s

namespace Campaign

def roundVerdicts (host : Host σ) (plan : Plan) (panel : Panel) (s : Session σ) : List Verdict :=
  match (maybeMutate host plan).result s with
  | (.error _, _) => []
  | (.ok (), s) => panel.verdicts host.executor s

def roundsVerdicts (host : Host σ) (plan : Plan) (deadline : Option Nat) :
    Nat → Panel → Session σ → List Verdict
  | 0, _, _ => []
  | n + 1, panel, s =>
    match Step.onLink (budgetSpent host deadline) s with
    | (true, _) => []
    | (false, s) =>
      roundVerdicts host plan panel s ++
        match round host plan panel s with
        | ((.error _, _), _) => []
        | ((.ok (), panel), s) => roundsVerdicts host plan deadline n panel s

def workVerdicts (host : Host σ) (plan : Plan) (deadline : Option Nat) (s : Session σ) :
    List Verdict :=
  match (prepare host plan).result s with
  | (.error _, _) => []
  | (.ok (), s) => roundsVerdicts host plan deadline plan.rounds (.ofKinds plan.oracles) s

structure Iteration where
  database : Nat
  seed : UInt64
  verdicts : List Verdict

/-- The iteration on a database whose connection has been taken. -/
def iteration (host : Host σ) (plan : Plan) (deadline : Option Nat) (number : Nat) (seed : UInt64)
    (taken : Link σ) : Iteration :=
  ⟨number, seed, workVerdicts host plan deadline (Session.start taken seed)⟩

/-- The iterations of that many databases, numbered from `number` on, with seeds drawn from
`seeds`. An iteration begins when a connection has been taken. -/
def iterations (host : Host σ) (plan : Plan) (deadline : Option Nat) :
    Nat → Nat → Random.Source → Report → Link σ → List Iteration
  | 0, _, _, _, _ => []
  | n + 1, number, seeds, report, link =>
    match budgetSpent host deadline link with
    | (true, _) => []
    | (false, link) =>
      match Link.onEngine host.checkout link with
      | (.error _, _) => []
      | (.ok (), taken) =>
        let (seed, seeds) := Random.freshSeed seeds
        iteration host plan deadline number seed taken ::
          match database host plan deadline number seed report link with
          | (.error _, _) => []
          | (.ok report, link) => iterations host plan deadline n (number + 1) seeds report link

/-- What a campaign does before its first database: the time at which it starts, its deadline and
the link afterwards. -/
def opening (host : Host σ) (plan : Plan) (seed : UInt64) (link : Link σ) :
    Moment × Option Nat × Link σ :=
  let noted :=
    (Link.note (notice .info ("Starting fuzz run with seed " ++ toString seed)) link).2
  let started := Link.onEngine host.wallClock noted
  let timed := Link.onEngine host.clock started.2
  (started.1, plan.timeoutSeconds.map fun seconds => timed.1 + seconds * 1000, timed.2)

def history (host : Host σ) (plan : Plan) (seed : UInt64) (link : Link σ) : List Iteration :=
  let (startedAt, deadline, link) := opening host plan seed link
  iterations host plan deadline plan.databases 0 (.ofSeed seed) { seed, startedAt } link

end Campaign

/-! ## Where verdicts come from -/

def Verdict.IsReached (x : Executor σ) (verdict : Verdict) : Prop :=
  ∃ memory s, (Check.run x memory s).1 = verdict

theorem Suite.verdicts_reached (x : Executor σ) (members : List Check.Memory) (s : Session σ) :
    ∀ v ∈ Suite.verdicts x members s, v.IsReached x := by
  induction members generalizing s with
  | nil => simp [Suite.verdicts]
  | cons memory members ih =>
    rw [Suite.verdicts]
    rcases hrun : Check.run x memory s with ⟨⟨_ | _, _⟩, s₁⟩
    · exact List.forall_mem_singleton.2 ⟨memory, s, by rw [hrun]⟩
    · exact List.forall_mem_cons.2 ⟨⟨memory, s, by rw [hrun]⟩, ih s₁⟩

theorem Panel.verdicts_reached (x : Executor σ) (panel : Panel) (s : Session σ) :
    ∀ v ∈ panel.verdicts x s, v.IsReached x := by
  cases panel with
  | alone memory => exact List.forall_mem_singleton.2 ⟨memory, s, rfl⟩
  | suite members => exact Suite.verdicts_reached x members.members s

namespace Campaign

variable (host : Host σ) (plan : Plan) (deadline : Option Nat)

theorem roundVerdicts_reached (panel : Panel) (s : Session σ) :
    ∀ v ∈ roundVerdicts host plan panel s, v.IsReached host.executor := by
  unfold roundVerdicts
  split
  · simp
  · exact Panel.verdicts_reached host.executor panel _

theorem roundsVerdicts_reached (n : Nat) (panel : Panel) (s : Session σ) :
    ∀ v ∈ roundsVerdicts host plan deadline n panel s, v.IsReached host.executor := by
  induction n generalizing panel s with
  | zero => simp [roundsVerdicts]
  | succ n ih =>
    unfold roundsVerdicts
    split
    · simp
    · refine List.forall_mem_append.2 ⟨roundVerdicts_reached host plan panel _, ?_⟩
      split
      · simp
      · exact ih _ _

theorem workVerdicts_reached (s : Session σ) :
    ∀ v ∈ workVerdicts host plan deadline s, v.IsReached host.executor := by
  unfold workVerdicts
  split
  · simp
  · exact roundsVerdicts_reached host plan deadline plan.rounds _ _

end Campaign

/-! ## How the work ends -/

/-- How work with the given verdicts can end, where `lastQuery` is the query that was sent last:
without an error after checks that all came to an outcome, with the error of the last check, or by
the loss of the connection between two checks. -/
inductive Ended (lastQuery : Option String) : List Verdict → Except RunError Unit → Prop
  | finished {verdicts : List Verdict} (settled : ∀ v ∈ verdicts, v.IsSettled) :
      Ended lastQuery verdicts (.ok ())
  | failed {earlier : List Verdict} {e : RunError} (settled : ∀ v ∈ earlier, v.IsSettled) :
      Ended lastQuery (earlier ++ [(.error e, lastQuery)]) (.error e)
  | lost {verdicts : List Verdict} {e : RunError} (settled : ∀ v ∈ verdicts, v.IsSettled)
      (loss : e.IsLoss) : Ended lastQuery verdicts (.error e)

theorem Ended.settled {lastQuery : Option String} {verdicts : List Verdict}
    (h : Ended lastQuery verdicts (.ok ())) : ∀ v ∈ verdicts, v.IsSettled := by
  cases h
  assumption

/-- Settled checks that come before do not change how the work ends. -/
theorem Ended.append {lastQuery : Option String} {earlier verdicts : List Verdict}
    {result : Except RunError Unit} (hearlier : ∀ v ∈ earlier, v.IsSettled)
    (h : Ended lastQuery verdicts result) : Ended lastQuery (earlier ++ verdicts) result := by
  cases h with
  | finished settled => exact .finished (List.forall_mem_append.2 ⟨hearlier, settled⟩)
  | failed settled =>
    rw [← List.append_assoc]
    exact .failed (List.forall_mem_append.2 ⟨hearlier, settled⟩)
  | lost settled loss => exact .lost (List.forall_mem_append.2 ⟨hearlier, settled⟩) loss

theorem Ended.lostAtOnce {lastQuery : Option String} {e : RunError} (loss : e.IsLoss) :
    Ended lastQuery [] (.error e) :=
  .lost (by simp) loss

theorem Check.run_ended (x : Executor σ) (memory : Check.Memory) (s : Session σ) :
    Ended (Check.run x memory s).1.2 [(Check.run x memory s).1]
      ((Check.run x memory s).1.1.map fun _ => ()) := by
  rcases (Check.run x memory s).1 with ⟨e | outcome, memory'⟩
  · exact @Ended.failed memory' [] e (by simp)
  · exact Ended.finished (by simp [Verdict.IsSettled, Verdict.failure?])

/-- What a piece of work with the given verdicts leaves behind: counts that the verdicts account
for, and an end that can be read off them. -/
structure Accounted (verdicts : List Verdict) (s s' : Session σ) (result : Except RunError Unit)
    (lastQuery : Option String) : Prop where
  stats : s'.stats = s.stats.afterAll verdicts
  ended : Ended lastQuery verdicts result

theorem Accounted.append {earlier verdicts : List Verdict} {s s₁ s₂ : Session σ}
    {result : Except RunError Unit} {q lastQuery : Option String}
    (h : Accounted earlier s s₁ (.ok ()) q) (h' : Accounted verdicts s₁ s₂ result lastQuery) :
    Accounted (earlier ++ verdicts) s s₂ result lastQuery :=
  ⟨by rw [h'.stats, h.stats, Stats.afterAll, Stats.afterAll, Stats.afterAll, List.foldl_append],
    h'.ended.append h.ended.settled⟩

/-! ## Panels -/

theorem Check.run_accounted (x : Executor σ) (memory : Check.Memory) (s : Session σ) :
    Accounted [(Check.run x memory s).1] s (Check.run x memory s).2
      ((Check.run x memory s).1.1.map fun _ => ()) (Check.run x memory s).1.2 :=
  ⟨Check.run_stats x memory s, Check.run_ended x memory s⟩

namespace Suite

theorem runMembers_cons_apply {S τ : Type} (o : Oracle S τ) (member : τ) (members : List τ)
    (s : S) :
    runMembers o (member :: members) s =
      match o.check member s with
      | ((.error e, member), s₁) => ((.error e, member :: members, 1), s₁)
      | ((.ok (), member), s₁) =>
        let run := runMembers o members s₁
        ((run.1.1, member :: run.1.2.1, run.1.2.2 + 1), run.2) := by
  rcases hrun : o.check member s with ⟨⟨_ | _, _⟩, _⟩
  all_goals
    simp only [runMembers, bind, StateT.bind, hrun]
    rfl

theorem runMembers_cons (x : Executor σ) (memory : Check.Memory) (members : List Check.Memory)
    (s : Session σ) :
    runMembers (Check.oracle x) (memory :: members) s =
      match Check.run x memory s with
      | ((.error e, memory), s₁) => ((.error e, memory :: members, 1), s₁)
      | ((.ok _, memory), s₁) =>
        let run := runMembers (Check.oracle x) members s₁
        ((run.1.1, memory :: run.1.2.1, run.1.2.2 + 1), run.2) := by
  have hcheck : (Check.oracle x).check memory s =
      (((Check.run x memory s).1.1.map fun _ => (), (Check.run x memory s).1.2),
        (Check.run x memory s).2) := rfl
  rw [runMembers_cons_apply, hcheck]
  rcases Check.run x memory s with ⟨⟨_ | _, _⟩, _⟩ <;> rfl

/-- The members of a suite are accounted for, and if one of them fails it is the one run last. -/
theorem runMembers_accounted (x : Executor σ) (members : List Check.Memory) (s : Session σ) :
    ∃ q, Accounted (Suite.verdicts x members s) s (runMembers (Check.oracle x) members s).2
        (runMembers (Check.oracle x) members s).1.1 q ∧
      ∀ e, (runMembers (Check.oracle x) members s).1.1 = .error e →
        ∃ i, (runMembers (Check.oracle x) members s).1.2.2 = i + 1 ∧
          (runMembers (Check.oracle x) members s).1.2.1[i]? = some q := by
  induction members generalizing s with
  | nil => exact ⟨none, ⟨rfl, .finished (by simp [Suite.verdicts])⟩, fun e h => by cases h⟩
  | cons memory members ih =>
    have hmember := Check.run_accounted x memory s
    rw [runMembers_cons, Suite.verdicts]
    rcases hrun : Check.run x memory s with ⟨⟨e | outcome, memory'⟩, s₁⟩
    · rw [hrun] at hmember
      exact ⟨memory', hmember, fun _ _ => ⟨0, rfl, rfl⟩⟩
    · rw [hrun] at hmember
      obtain ⟨q, hmembers, hlast⟩ := ih s₁
      refine ⟨q, hmember.append hmembers, fun e he => ?_⟩
      obtain ⟨i, hcount, hi⟩ := hlast e he
      exact ⟨i + 1, congrArg (· + 1) hcount, hi⟩

end Suite

theorem Suite.check_accounted (x : Executor σ) (suite : Suite Check.Memory) (s : Session σ) :
    Accounted (Suite.verdicts x suite.members s) s (Suite.check (Check.oracle x) suite s).2
      (Suite.check (Check.oracle x) suite s).1.1
      (Suite.lastQuery (Check.oracle x) (Suite.check (Check.oracle x) suite s).1.2) := by
  obtain ⟨q, ⟨hstats, hended⟩, hlast⟩ := Suite.runMembers_accounted x suite.members s
  have hcheck : Suite.check (Check.oracle x) suite s =
      let run := Suite.runMembers (Check.oracle x) suite.members s
      ((run.1.1, ⟨run.1.2.1, if run.1.2.2 = 0 then suite.last else some (run.1.2.2 - 1)⟩),
        run.2) := rfl
  rw [hcheck]
  rcases hrun : Suite.runMembers (Check.oracle x) suite.members s with
    ⟨⟨result, members, count⟩, s'⟩
  rw [hrun] at hstats hended hlast
  refine ⟨hstats, ?_⟩
  cases result with
  | ok _ => exact .finished hended.settled
  | error e =>
    obtain ⟨i, rfl, hi⟩ := hlast e rfl
    -- The suite keeps the place of the member run last, and that one remembers its query.
    have hquery : Suite.lastQuery (Check.oracle x) ⟨members, some i⟩ = q := by
      show (members[i]? >>= fun memory => memory) = q
      simp [hi]
    simpa [hquery] using hended

theorem Panel.check_accounted (x : Executor σ) (panel : Panel) (s : Session σ) :
    Accounted (panel.verdicts x s) s ((Panel.oracle x).check panel s).2
      ((Panel.oracle x).check panel s).1.1
      ((Panel.oracle x).lastQuery ((Panel.oracle x).check panel s).1.2) := by
  cases panel with
  | alone memory => exact Check.run_accounted x memory s
  | suite members => exact Suite.check_accounted x members s

/-! ## The work on a database -/

namespace Campaign

variable (host : Host σ) (plan : Plan) (deadline : Option Nat)

theorem prepare_within : (prepare host plan).Within Session.SameStats RunError.IsLoss :=
  prepare_keeps (Session.sameStats_frame host.executor) plan (fun _ => rfl)
    (Session.renewSchema_sameStats host.executor)

theorem maybeMutate_within :
    (maybeMutate host plan).Within Session.SameStats RunError.IsLoss :=
  maybeMutate_keeps (Session.sameStats_frame host.executor) plan

theorem round_apply (panel : Panel) (s : Session σ) :
    round host plan panel s =
      match (maybeMutate host plan).result s with
      | (.error e, s₁) => ((.error e, panel), s₁)
      | (.ok (), s₁) => (Panel.oracle host.executor).check panel s₁ := by
  rw [round, Step.bind_apply]
  rcases (maybeMutate host plan).result s with ⟨_ | _, _⟩ <;> rfl

theorem round_accounted (panel : Panel) (s : Session σ) :
    Accounted (roundVerdicts host plan panel s) s (round host plan panel s).2
      (round host plan panel s).1.1
      ((Panel.oracle host.executor).lastQuery (round host plan panel s).1.2) := by
  have hmutate := maybeMutate_within host plan
  have hkept := hmutate.result s
  rw [roundVerdicts, round_apply]
  rcases hrun : (maybeMutate host plan).result s with ⟨e | _, s₁⟩ <;> rw [hrun] at hkept
  · exact ⟨hkept, .lostAtOnce (hmutate.result_error hrun)⟩
  · have hcheck := Panel.check_accounted host.executor panel s₁
    exact ⟨by rw [hcheck.stats, hkept], hcheck.ended⟩

theorem rounds_succ (n : Nat) (panel : Panel) (s : Session σ) :
    rounds host plan deadline (n + 1) panel s =
      match Step.onLink (budgetSpent host deadline) s with
      | (true, s₁) => ((.ok (), panel), s₁)
      | (false, s₁) =>
        match round host plan panel s₁ with
        | ((.error e, panel), s₂) => ((.error e, panel), s₂)
        | ((.ok (), panel), s₂) => rounds host plan deadline n panel s₂ := by
  rw [rounds, Step.bind_apply]
  rcases Step.onLink (budgetSpent host deadline) s with ⟨_ | _, s₁⟩
  · show (round host plan panel >>= _) s₁ = _
    rw [Step.bind_apply]
    dsimp only
    rcases round host plan panel s₁ with ⟨⟨_ | _, _⟩, _⟩ <;> rfl
  · rfl

/-- That many rounds are accounted for: one round at a time, whichever of them ends the work. -/
theorem rounds_accounted (n : Nat) (panel : Panel) (s : Session σ) :
    Accounted (roundsVerdicts host plan deadline n panel s) s
      (rounds host plan deadline n panel s).2 (rounds host plan deadline n panel s).1.1
      ((Panel.oracle host.executor).lastQuery (rounds host plan deadline n panel s).1.2) := by
  induction n generalizing panel s with
  | zero => exact ⟨rfl, .finished (by simp [roundsVerdicts])⟩
  | succ n ih =>
    -- Looking at the budget counts nothing.
    have hbudget : (Step.onLink (budgetSpent host deadline) s).2.stats = s.stats := rfl
    rw [roundsVerdicts, rounds_succ]
    rcases hspent : Step.onLink (budgetSpent host deadline) s with ⟨_ | _, s₁⟩ <;>
      rw [hspent] at hbudget
    · have hround := round_accounted host plan panel s₁
      dsimp only
      rcases hrun : round host plan panel s₁ with ⟨⟨e | _, panel'⟩, s₂⟩ <;> rw [hrun] at hround
      · rw [List.append_nil]
        exact ⟨hround.stats.trans (by rw [hbudget]), hround.ended⟩
      · have hfirst : Accounted (roundVerdicts host plan panel s₁) s s₂ (.ok ()) _ :=
          ⟨hround.stats.trans (by rw [hbudget]), hround.ended⟩
        exact hfirst.append (ih panel' s₂)
    · exact ⟨hbudget, .finished (by simp)⟩

theorem workDatabase_apply (s : Session σ) :
    workDatabase host plan deadline s =
      match (prepare host plan).result s with
      | (.error e, s₁) => ((.error e, .ofKinds plan.oracles), s₁)
      | (.ok (), s₁) => rounds host plan deadline plan.rounds (.ofKinds plan.oracles) s₁ := by
  rw [workDatabase]
  show ((prepare host plan).result >>= _) s = _
  rw [Step.bind_apply]
  rcases (prepare host plan).result s with ⟨_ | _, _⟩ <;> rfl

theorem work_accounted (s : Session σ) :
    Accounted (workVerdicts host plan deadline s) s (workDatabase host plan deadline s).2
      (workDatabase host plan deadline s).1.1
      ((Panel.oracle host.executor).lastQuery (workDatabase host plan deadline s).1.2) := by
  have hprepare := prepare_within host plan
  have hkept := hprepare.result s
  rw [workVerdicts, workDatabase_apply]
  rcases hrun : (prepare host plan).result s with ⟨e | _, s₁⟩ <;> rw [hrun] at hkept
  · exact ⟨hkept, .lostAtOnce (hprepare.result_error hrun)⟩
  · have hrounds := rounds_accounted host plan deadline plan.rounds (.ofKinds plan.oracles) s₁
    exact ⟨by rw [hrounds.stats, hkept], hrounds.ended⟩

end Campaign

end RowParity
