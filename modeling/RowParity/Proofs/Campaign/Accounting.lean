import RowParity.Proofs.Campaign.History

/-!
# The accounts of a campaign

Every check that a campaign makes is entered in its report once: as a pass, as an expected error, as
a finding or as a failure. The report of a finished campaign is a sum over its history
(`databases_report`), and every verdict falls into one of the four classes (`Verdict.partition`), so
the classes add up to the number of checks.
-/

namespace RowParity

variable {σ α : Type}

/-! ## Verdicts by class -/

namespace Verdict

/-- Every verdict is a pass, an expected error, a finding or a failure, and only one of them. -/
theorem partition (verdicts : List Verdict) :
    verdicts.length = verdicts.countP isPass + verdicts.countP isExpected +
      (verdicts.filterMap finding?).length + (verdicts.filterMap failure?).length := by
  induction verdicts with
  | nil => rfl
  | cons verdict verdicts ih =>
    rw [List.length_cons, List.countP_cons, List.countP_cons, List.filterMap_cons,
      List.filterMap_cons]
    rcases verdict with ⟨e | rows | f | ⟨message, pattern⟩, memory⟩ <;>
      simp only [isPass, isExpected, finding?, failure?, List.length_cons] <;> grind

theorem IsSettled.ne_error {verdict : Verdict} (h : verdict.IsSettled) (e : RunError) :
    verdict.1 ≠ .error e := by
  rintro he
  rw [IsSettled, failure?.eq_def] at h
  split at h
  · cases h
  · next hne => exact hne e verdict.2 (Prod.ext he rfl)

end Verdict

theorem Stats.afterAll_eq (stats : Stats) (verdicts : List Verdict) :
    stats.afterAll verdicts =
      { checks := stats.checks + verdicts.length
        passes := stats.passes + verdicts.countP Verdict.isPass
        expectedErrors := stats.expectedErrors + verdicts.countP Verdict.isExpected
        findings := stats.findings ++ verdicts.filterMap Verdict.finding? } := by
  unfold Stats.afterAll
  induction verdicts generalizing stats with
  | nil => simp
  | cons verdict verdicts ih =>
    rw [List.foldl_cons, ih, List.length_cons, List.countP_cons, List.countP_cons,
      List.filterMap_cons]
    rcases verdict with ⟨e | rows | f | ⟨message, pattern⟩, memory⟩ <;>
      simp [Stats.after, Verdict.isPass, Verdict.isExpected, Verdict.finding?] <;> omega

/-! ## Iterations -/

namespace Campaign

/-- The failures among the checks of an iteration. -/
def Iteration.failures (iteration : Iteration) : List Failure :=
  (iteration.verdicts.filterMap Verdict.failure?).map fun (e, lastQuery) =>
    { database := iteration.database, seed := iteration.seed, error := e.message, lastQuery }

/-- The report with everything that the checks of an iteration came to. -/
def absorb (report : Report) (iteration : Iteration) : Report :=
  { report.withStats (({} : Stats).afterAll iteration.verdicts) with
    failures := report.failures ++ iteration.failures }

/-- No check of the iteration failed by a lost connection. -/
def Iteration.IsConnected (iteration : Iteration) : Prop :=
  ∀ v ∈ iteration.verdicts, ∀ e, v.1 = .error e → e.isDisconnect = false

theorem Iteration.failures_finished {iteration : Iteration} {lastQuery : Option String}
    (h : Ended lastQuery iteration.verdicts (.ok ())) :
    iteration.failures = [] ∧ iteration.IsConnected := by
  have hsettled := h.settled
  constructor
  · rw [failures, List.filterMap_eq_nil_iff.2 hsettled, List.map_nil]
  · exact fun v hv e he => absurd he ((hsettled v hv).ne_error e)

/-- An iteration that was ended by an error other than a lost connection has one failure: the last
check, with the error that ended it. -/
theorem Iteration.failures_failed {iteration : Iteration} {lastQuery : Option String} {e : RunError}
    (h : Ended lastQuery iteration.verdicts (.error e)) (he : e.isDisconnect = false) :
    iteration.failures = [
        { database := iteration.database, seed := iteration.seed, error := e.message, lastQuery }] ∧
      iteration.IsConnected := by
  unfold failures IsConnected
  generalize iteration.verdicts = verdicts at h ⊢
  cases h with
  | @failed earlier _ hsettled =>
    constructor
    · rw [List.filterMap_append, List.filterMap_eq_nil_iff.2 hsettled]
      rfl
    · intro v hv e' he'
      rcases List.mem_append.1 hv with hearlier | hlast
      · exact absurd he' ((hsettled v hearlier).ne_error e')
      · rw [List.mem_singleton.1 hlast] at he'
        cases he'
        exact he
  | lost _ hloss => rw [RunError.IsLoss, he] at hloss; cases hloss

variable (host : Host σ) (plan : Plan) (deadline : Option Nat)

theorem database_apply (number : Nat) (seed : UInt64) (report : Report) (link : Link σ) :
    database host plan deadline number seed report link =
      match Link.onEngine host.checkout link with
      | (.error cause, link) => (.error (.pool cause), link)
      | (.ok (), link) =>
        let work := workDatabase host plan deadline (Session.start link seed)
        conclude number seed ((Panel.oracle host.executor).lastQuery work.1.2)
          (report.withStats work.2.stats) work.1.1 work.2.toLink := by
  rw [database, Link.bind_apply]
  rcases Link.onEngine host.checkout link with ⟨_ | _, _⟩ <;> rfl

theorem conclude_ok {number : Nat} {seed : UInt64} {lastQuery : Option String}
    {report report' : Report} {result : Except RunError Unit} {link link' : Link σ}
    (h : conclude number seed lastQuery report result link = (.ok report', link')) :
    (result = .ok () ∧ report' = report) ∨
      ∃ e, result = .error e ∧ e.isDisconnect = false ∧
        report' = report.addFailure
          { database := number, seed, error := e.message, lastQuery } := by
  cases result with
  | ok _ =>
    cases h
    exact .inl ⟨rfl, rfl⟩
  | error e =>
    refine .inr ⟨e, rfl, ?_⟩
    cases hlost : e.isDisconnect with
    | true =>
      rw [conclude, if_pos hlost] at h
      cases h
    | false =>
      rw [conclude, if_neg (by simp [hlost])] at h
      cases h
      exact ⟨rfl, rfl⟩

/-- One database adds its iteration to the report, unless the connection is lost. -/
theorem database_report {number : Nat} {seed : UInt64} {report report' : Report}
    {link link' : Link σ}
    (h : database host plan deadline number seed report link = (.ok report', link')) :
    ∃ taken, Link.onEngine host.checkout link = (.ok (), taken) ∧
      report' = absorb report (iteration host plan deadline number seed taken) ∧
      (iteration host plan deadline number seed taken).IsConnected := by
  rw [database_apply] at h
  rcases hcheckout : Link.onEngine host.checkout link with ⟨cause | _, taken⟩
  · rw [hcheckout] at h
    cases h
  refine ⟨taken, rfl, ?_⟩
  rw [hcheckout] at h
  obtain ⟨hstats, hended⟩ := work_accounted host plan deadline (Session.start taken seed)
  -- A fresh session counts from zero.
  change _ = ({} : Stats).afterAll _ at hstats
  dsimp only at h
  rw [hstats] at h
  rcases conclude_ok h with ⟨hresult, rfl⟩ | ⟨e, hresult, he, rfl⟩ <;> rw [hresult] at hended
  · have hfailures := @Iteration.failures_finished
      (iteration host plan deadline number seed taken) _ hended
    refine ⟨?_, hfailures.2⟩
    rw [absorb, hfailures.1, List.append_nil]
    rfl
  · have hfailures := @Iteration.failures_failed
      (iteration host plan deadline number seed taken) _ e hended he
    refine ⟨?_, hfailures.2⟩
    rw [absorb, hfailures.1]
    rfl

theorem databases_succ (n number : Nat) (seeds : Random.Source) (report : Report) (link : Link σ) :
    databases host plan deadline (n + 1) number seeds report link =
      match budgetSpent host deadline link with
      | (true, link) =>
        (.ok report, (Link.note (notice .warn
          ("Stopping before database " ++ toString number ++ ": budget exhausted")) link).2)
      | (false, link) =>
        let drawn := Random.freshSeed seeds
        match database host plan deadline number drawn.1 report link with
        | (.error e, link) => (.error e, link)
        | (.ok report, link) =>
          databases host plan deadline n (number + 1) drawn.2 report link := by
  rw [databases, Link.bind_apply]
  rcases budgetSpent host deadline link with ⟨_ | _, link⟩
  · show (database host plan deadline number (Random.freshSeed seeds).1 report >>= _) link = _
    rw [Link.bind_apply]
    dsimp only
    rcases database host plan deadline number (Random.freshSeed seeds).1 report link with
      ⟨_ | _, _⟩ <;> rfl
  · rfl

/-- A database whose work is entered in the report is the first of the iterations. -/
theorem iterations_succ {n number : Nat} {seeds : Random.Source} {report report₁ : Report}
    {link link₁ link₂ taken : Link σ} (hbudget : budgetSpent host deadline link = (false, link₁))
    (hcheckout : Link.onEngine host.checkout link₁ = (.ok (), taken))
    (hrun : database host plan deadline number (Random.freshSeed seeds).1 report link₁ =
      (.ok report₁, link₂)) :
    iterations host plan deadline (n + 1) number seeds report link =
      iteration host plan deadline number (Random.freshSeed seeds).1 taken ::
        iterations host plan deadline n (number + 1) (Random.freshSeed seeds).2 report₁ link₂ := by
  rw [iterations, hbudget]
  dsimp only
  rw [hcheckout]
  rcases hseed : Random.freshSeed seeds with ⟨seed, seeds'⟩
  rw [hseed] at hrun
  dsimp only at hrun ⊢
  rw [hrun]

/-- The report of a finished campaign is what it started with and all its iterations. -/
theorem databases_report {n number : Nat} {seeds : Random.Source} {report report' : Report}
    {link link' : Link σ}
    (h : databases host plan deadline n number seeds report link = (.ok report', link')) :
    report' = (iterations host plan deadline n number seeds report link).foldl absorb report ∧
      ∀ it ∈ iterations host plan deadline n number seeds report link, it.IsConnected := by
  induction n generalizing number seeds report link with
  | zero =>
    cases h
    exact ⟨rfl, by simp [iterations]⟩
  | succ n ih =>
    rw [databases_succ] at h
    rcases hbudget : budgetSpent host deadline link with ⟨_ | _, link₁⟩ <;> rw [hbudget] at h <;>
      dsimp only at h
    · rcases hrun : database host plan deadline number (Random.freshSeed seeds).1 report link₁ with
        ⟨e | report₁, link₂⟩ <;> rw [hrun] at h
      · cases h
      obtain ⟨taken, hcheckout, rfl, hconnected⟩ := database_report host plan deadline hrun
      obtain ⟨hreport, hothers⟩ := ih h
      rw [iterations_succ host plan deadline hbudget hcheckout hrun]
      exact ⟨hreport, List.forall_mem_cons.2 ⟨hconnected, hothers⟩⟩
    · cases h
      unfold iterations
      rw [hbudget]
      exact ⟨rfl, by simp⟩

theorem iterations_reached (n number : Nat) (seeds : Random.Source) (report : Report)
    (link : Link σ) : ∀ it ∈ iterations host plan deadline n number seeds report link,
      ∀ v ∈ it.verdicts, v.IsReached host.executor := by
  induction n generalizing number seeds report link with
  | zero => simp [iterations]
  | succ n ih =>
    unfold iterations
    split
    · simp
    split
    · simp
    refine List.forall_mem_cons.2 ⟨workVerdicts_reached host plan deadline _, ?_⟩
    split
    · simp
    · exact ih _ _ _ _

/-- The report after some iterations, with all their verdicts in one list. -/
theorem foldl_absorb (iterations : List Iteration) (report : Report) :
    let verdicts := iterations.flatMap Iteration.verdicts
    iterations.foldl absorb report =
      { report with
        databases := report.databases + iterations.length
        checks := report.checks + verdicts.length
        passes := report.passes + verdicts.countP Verdict.isPass
        expectedErrors := report.expectedErrors + verdicts.countP Verdict.isExpected
        findings := report.findings ++ verdicts.filterMap Verdict.finding?
        failures := report.failures ++ iterations.flatMap Iteration.failures } := by
  induction iterations generalizing report with
  | nil => simp
  | cons iteration iterations ih =>
    dsimp only at ih ⊢
    rw [List.foldl_cons, ih, absorb, Stats.afterAll_eq]
    simp [Report.withStats]
    omega

theorem length_failures (iterations : List Iteration) :
    (iterations.flatMap Iteration.failures).length =
      ((iterations.flatMap Iteration.verdicts).filterMap Verdict.failure?).length := by
  induction iterations with
  | nil => rfl
  | cons iteration iterations ih =>
    rw [List.flatMap_cons, List.flatMap_cons, List.length_append, List.filterMap_append,
      List.length_append, ih, Iteration.failures, List.length_map]

/-! ## The report of a campaign -/

theorem run_apply (seed : UInt64) (link : Link σ) :
    run host plan seed link =
      let opened := opening host plan seed link
      match databases host plan opened.2.1 plan.databases 0 (.ofSeed seed)
          { seed, startedAt := opened.1 } opened.2.2 with
      | (.error e, link) => (.error e, link)
      | (.ok report, link) =>
        let finished := Link.onEngine host.wallClock link
        (.ok { report with finishedAt := some finished.1 }, finished.2) := by
  rw [run, Link.bind_apply, Link.bind_apply, Link.bind_apply, Link.bind_apply]
  unfold opening
  dsimp only
  generalize databases host plan _ plan.databases 0 _ _ _ = answer
  rcases answer with ⟨_ | _, _⟩ <;> rfl

variable {host plan}

/-- A finished campaign reports its history. -/
theorem run_report {seed : UInt64} {report : Report} {link : Link σ}
    (h : (run host plan seed link).1 = .ok report) :
    (∃ startedAt finishedAt, report =
        { (history host plan seed link).foldl absorb { seed, startedAt } with finishedAt }) ∧
      ∀ it ∈ history host plan seed link, it.IsConnected := by
  rw [run_apply] at h
  unfold history
  rcases hopening : opening host plan seed link with ⟨startedAt, deadline, link₁⟩
  rw [hopening] at h
  dsimp only at h ⊢
  rcases hrun : databases host plan deadline plan.databases 0 (.ofSeed seed) { seed, startedAt }
      link₁ with ⟨e | report₁, link₂⟩ <;> rw [hrun] at h
  · cases h
  obtain ⟨rfl, hconnected⟩ := databases_report host plan deadline hrun
  cases h
  exact ⟨⟨startedAt, _, rfl⟩, hconnected⟩

theorem history_reached (seed : UInt64) (link : Link σ) :
    ∀ it ∈ history host plan seed link, ∀ v ∈ it.verdicts, v.IsReached host.executor :=
  iterations_reached host plan _ _ _ _ _ _

theorem Iteration.mem_failures {iteration : Iteration} (hconnected : iteration.IsConnected)
    {failure : Failure} (h : failure ∈ iteration.failures) :
    ∃ e, (.error e, failure.lastQuery) ∈ iteration.verdicts ∧ e.isDisconnect = false ∧
      failure.database = iteration.database ∧ failure.seed = iteration.seed ∧
      failure.error = e.message := by
  obtain ⟨⟨e, lastQuery⟩, hfailed, rfl⟩ := List.mem_map.1 h
  obtain ⟨⟨result, memory⟩, hv, hverdict⟩ := List.mem_filterMap.1 hfailed
  cases result with
  | ok _ => cases hverdict
  | error e =>
    cases hverdict
    exact ⟨e, hv, hconnected _ hv e rfl, rfl, rfl, rfl⟩

/-- What the report of a finished campaign says about the checks that were made: each of them is
counted, and it is entered in the one class that its verdict belongs to. -/
structure Balanced (host : Host σ) (plan : Plan) (seed : UInt64) (link : Link σ)
    (report : Report) : Prop where
  sum : report.checks =
    report.passes + report.expectedErrors + report.findings.length + report.failures.length
  checks : report.checks = ((history host plan seed link).flatMap Iteration.verdicts).length
  passes : report.passes =
    ((history host plan seed link).flatMap Iteration.verdicts).countP Verdict.isPass
  expectedErrors : report.expectedErrors =
    ((history host plan seed link).flatMap Iteration.verdicts).countP Verdict.isExpected
  findings : report.findings =
    ((history host plan seed link).flatMap Iteration.verdicts).filterMap Verdict.finding?
  failures : report.failures = (history host plan seed link).flatMap Iteration.failures
  /-- Every failure is a check that failed, but not by a lost connection. -/
  failed : ∀ failure ∈ report.failures, ∃ it ∈ history host plan seed link, ∃ e,
    (.error e, failure.lastQuery) ∈ it.verdicts ∧ e.isDisconnect = false ∧
      failure.database = it.database ∧ failure.seed = it.seed ∧ failure.error = e.message
  /-- Every verdict is what some check came to. -/
  reached : ∀ it ∈ history host plan seed link, ∀ v ∈ it.verdicts, v.IsReached host.executor
  /-- No check of a finished campaign failed by a lost connection. -/
  connected : ∀ it ∈ history host plan seed link, it.IsConnected

/-- The action fails by a lost connection only, so no failure in a report comes from it. -/
def FailsByLoss (action : Action σ α) : Prop :=
  ∀ s e s', action s = .error e s' → e.isDisconnect = true

theorem failsByLoss_of_within {R : Session σ → Session σ → Prop} {action : Action σ α}
    (h : action.Within R RunError.IsLoss) : FailsByLoss action :=
  fun _ _ _ hrun => (h.error hrun).2

/-- **The accounts balance.** If a campaign ends with a report, whatever the engine answered and
whenever the budget ran out, then the report counts every check once; and nothing but checks can
enter a failure into it. -/
theorem run_balanced {seed : UInt64} {report : Report} {link : Link σ}
    (h : (run host plan seed link).1 = .ok report) :
    Balanced host plan seed link report ∧ FailsByLoss (Action.renewSchema host.executor) ∧
      (∀ millis, FailsByLoss (Action.fillDatabase host.executor millis)) ∧
      FailsByLoss (Action.topUp host.executor) ∧ FailsByLoss (Action.updateRows host.executor) := by
  have frame := Session.sameStats_frame host.executor
  have hrenew := Session.renewSchema_sameStats host.executor
  refine ⟨?_, failsByLoss_of_within hrenew,
    fun millis => failsByLoss_of_within (frame.closed.fillDatabase hrenew millis),
    failsByLoss_of_within frame.closed.topUp, failsByLoss_of_within frame.closed.updateRows⟩
  obtain ⟨⟨startedAt, finishedAt, hreport⟩, hconnected⟩ := run_report h
  have hpartition :=
    Verdict.partition ((history host plan seed link).flatMap Iteration.verdicts)
  have hlength := length_failures (history host plan seed link)
  rw [foldl_absorb] at hreport
  have hchecks := congrArg Report.checks hreport
  have hpasses := congrArg Report.passes hreport
  have hexpected := congrArg Report.expectedErrors hreport
  have hfindings := congrArg Report.findings hreport
  have hfailures := congrArg Report.failures hreport
  simp only [Nat.zero_add, List.nil_append] at hchecks hpasses hexpected hfindings hfailures
  refine ⟨?_, hchecks, hpasses, hexpected, hfindings, hfailures, ?_, history_reached seed link,
    hconnected⟩
  · rw [hchecks, hpasses, hexpected, hfindings, hfailures, hlength]
    exact hpartition
  · intro failure hfailure
    rw [hfailures] at hfailure
    obtain ⟨it, hit, hmem⟩ := List.mem_flatMap.1 hfailure
    exact ⟨it, hit, Iteration.mem_failures (hconnected it hit) hmem⟩

/-- A host whose engine rejects every statement and answers its queries from a list. -/
def listHost : Host (List (Except EngineError (List Row))) where
  executor :=
    { execute := fun _ => return { result := .error (.statement "" "read only") }
      fetch := fun _ replies => ({ result := replies.head?.getD (.ok []) }, replies.tail)
      columnNames := fun _ => return { result := .ok [] }
      isAlive := return true }
  checkout := return .ok ()
  stopRequested := return false
  clock := return 0
  wallClock := return 0

/-- Twice the answers about a catalog of one table, then a mismatch with two plans and an error. -/
def listReplies : List (Except EngineError (List Row)) :=
  let catalog : List (Except EngineError (List Row)) :=
    [.ok [[.text "t"]], .ok [[.text "id", .text "INTEGER", .null, .text "NO"]], .ok []]
  catalog ++ catalog ++
    [.ok [[]], .ok [[], []], .ok [], .ok [], .error (.statement "" "internal error")]

/-- One database and two rounds. -/
def listPlan : Plan :=
  { databases := 1, rounds := 2, mutationProbability := ⟨0⟩ }

theorem run_balanced_list : ∃ report,
    (run listHost listPlan 7 { engine := listReplies }).1 = .ok report ∧
      report.checks = 2 ∧ report.findings.length = 1 ∧ report.failures.length = 1 ∧
      Balanced listHost listPlan 7 { engine := listReplies } report := by
  have hcounts : (run listHost listPlan 7 { engine := listReplies }).1.toOption.map
      (fun report => (report.checks, report.findings.length, report.failures.length)) =
        some (2, 1, 1) := by decide +kernel
  cases h : (run listHost listPlan 7 { engine := listReplies }).1 with
  | error e =>
    rw [h] at hcounts
    cases hcounts
  | ok report =>
    rw [h] at hcounts
    simp only [Except.toOption, Option.map_some, Option.some.injEq, Prod.mk.injEq] at hcounts
    obtain ⟨hchecks, hfindings, hfailures⟩ := hcounts
    exact ⟨report, rfl, hchecks, hfindings, hfailures, (run_balanced h).1⟩

end Campaign

end RowParity
