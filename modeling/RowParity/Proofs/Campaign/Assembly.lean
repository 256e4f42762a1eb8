import RowParity.Proofs.Campaign.Replay

/-!
# How a report is put together

The report of a finished campaign is put together from its iterations one after the other
(`run_report`). The iterations are numbered as they come and have the seeds that the campaign draws
(`iterations_nth`), and each ends with at most one failure (`Ended.failures_length`). So the
failures stand in the order of the databases, and every one of them names the seed from which its
database can be replayed.
-/

namespace RowParity

/-- Work that has ended had at most one failed check. -/
theorem Ended.failures_length {lastQuery : Option String} {verdicts : List Verdict}
    {result : Except RunError Unit} (h : Ended lastQuery verdicts result) :
    (verdicts.filterMap Verdict.failure?).length ≤ 1 := by
  have hnone : ∀ {verdicts : List Verdict}, (∀ v ∈ verdicts, v.IsSettled) →
      verdicts.filterMap Verdict.failure? = [] := List.filterMap_eq_nil_iff.2
  cases h with
  | finished settled => simp [hnone settled]
  | failed settled => simp [List.filterMap_append, hnone settled, Verdict.failure?]
  | lost settled => simp [hnone settled]

namespace Campaign

variable {σ : Type} {host : Host σ} {plan : Plan} {deadline : Option Nat}

/-! ## Iterations in order -/

/-- The iteration tells of work in a fresh session with its seed: its verdicts are those of that
work, the session has recorded the findings among them, and at most one of them is a failure. -/
def Iteration.IsWork (host : Host σ) (plan : Plan) (deadline : Option Nat) (it : Iteration) :
    Prop :=
  ∃ taken, it.verdicts = workVerdicts host plan deadline (Session.start taken it.seed) ∧
    (workDatabase host plan deadline (Session.start taken it.seed)).2.stats.findings =
      it.verdicts.filterMap Verdict.finding? ∧
    it.failures.length ≤ 1

theorem iteration_isWork (number : Nat) (seed : UInt64) (taken : Link σ) :
    (iteration host plan deadline number seed taken).IsWork host plan deadline := by
  obtain ⟨hstats, hended⟩ := work_accounted host plan deadline (Session.start taken seed)
  refine ⟨taken, rfl, ?_, ?_⟩
  · have hfindings := congrArg Stats.findings hstats
    rw [Stats.afterAll_eq] at hfindings
    -- A fresh session has no findings yet.
    exact hfindings
  · rw [Iteration.failures, List.length_map]
    exact hended.failures_length

/-- A database whose connection has been taken begins the iterations. -/
theorem iterations_taken {n number : Nat} {seeds : Random.Source} {report : Report}
    {link link₁ taken : Link σ} (hbudget : budgetSpent host deadline link = (false, link₁))
    (hcheckout : Link.onEngine host.checkout link₁ = (.ok (), taken)) :
    iterations host plan deadline (n + 1) number seeds report link =
      iteration host plan deadline number (Random.freshSeed seeds).1 taken ::
        match database host plan deadline number (Random.freshSeed seeds).1 report link₁ with
        | (.error _, _) => []
        | (.ok report, link₂) =>
          iterations host plan deadline n (number + 1) (Random.freshSeed seeds).2 report link₂ := by
  rw [iterations, hbudget]
  dsimp only
  rw [hcheckout]
  rfl

theorem iterations_untaken {n number : Nat} {seeds : Random.Source} {report : Report}
    {link link₁ link₂ : Link σ} {cause : Option String}
    (hbudget : budgetSpent host deadline link = (false, link₁))
    (hcheckout : Link.onEngine host.checkout link₁ = (.error cause, link₂)) :
    iterations host plan deadline (n + 1) number seeds report link = [] := by
  rw [iterations, hbudget]
  dsimp only
  rw [hcheckout]

theorem iterations_spent {n number : Nat} {seeds : Random.Source} {report : Report}
    {link link₁ : Link σ} (hbudget : budgetSpent host deadline link = (true, link₁)) :
    iterations host plan deadline (n + 1) number seeds report link = [] := by
  rw [iterations, hbudget]

/-- The iteration of a visit, if its connection was taken. -/
def Visit.iteration? (host : Host σ) (plan : Plan) (deadline : Option Nat) (visit : Visit σ) :
    Option Iteration :=
  match Link.onEngine host.checkout visit.link with
  | (.error _, _) => none
  | (.ok (), taken) => some (iteration host plan deadline visit.number visit.seed taken)

/-- Every visit whose connection was taken is an iteration. -/
theorem iterations_eq_visits (n number : Nat) (seeds : Random.Source) (report : Report)
    (link : Link σ) :
    iterations host plan deadline n number seeds report link =
      (visitsFrom host plan deadline n number seeds report link).filterMap
        (Visit.iteration? host plan deadline) := by
  induction n generalizing number seeds report link with
  | zero => rfl
  | succ n ih =>
    rcases hbudget : budgetSpent host deadline link with ⟨_ | _, link₁⟩
    · rw [visitsFrom_left host plan deadline hbudget, List.filterMap_cons, Visit.iteration?]
      dsimp only
      rcases hcheckout : Link.onEngine host.checkout link₁ with ⟨cause | _, taken⟩
      · rw [iterations_untaken hbudget hcheckout, database_apply, hcheckout]
        rfl
      · rw [iterations_taken hbudget hcheckout]
        dsimp only
        rcases database host plan deadline number (Random.freshSeed seeds).1 report link₁ with
          ⟨e | report₁, link₂⟩
        · rfl
        · dsimp only
          rw [ih]
    · rw [visitsFrom_spent host plan deadline hbudget, iterations_spent hbudget]
      rfl

theorem history_eq_visits (host : Host σ) (plan : Plan) (seed : UInt64) (link : Link σ) :
    history host plan seed link =
      (visits host plan seed link).filterMap
        (Visit.iteration? host plan (dueAt host plan seed link)) :=
  iterations_eq_visits _ _ _ _ _

theorem iterations_nth {n number k : Nat} {seeds : Random.Source} {report : Report}
    {link : Link σ} {it : Iteration}
    (h : (iterations host plan deadline n number seeds report link)[k]? = some it) :
    it.database = number + k ∧ it.seed = Random.nthSeed k seeds ∧ it.IsWork host plan deadline := by
  induction n generalizing number k seeds report link with
  | zero => cases h
  | succ n ih =>
    rcases hbudget : budgetSpent host deadline link with ⟨_ | _, link₁⟩
    · rcases hcheckout : Link.onEngine host.checkout link₁ with ⟨cause | _, taken⟩
      · rw [iterations_untaken hbudget hcheckout] at h
        cases h
      rw [iterations_taken hbudget hcheckout] at h
      cases k with
      | zero =>
        cases h
        exact ⟨rfl, rfl, iteration_isWork _ _ _⟩
      | succ k =>
        rw [List.getElem?_cons_succ] at h
        split at h
        · cases h
        · obtain ⟨hdatabase, hseed, hwork⟩ := ih h
          exact ⟨by omega, hseed, hwork⟩
    · rw [iterations_spent hbudget] at h
      cases h

theorem visitsFrom_length_le (n number : Nat) (seeds : Random.Source) (report : Report)
    (link : Link σ) : (visitsFrom host plan deadline n number seeds report link).length ≤ n := by
  induction n generalizing number seeds report link with
  | zero => simp [visitsFrom]
  | succ n ih =>
    rcases hbudget : budgetSpent host deadline link with ⟨_ | _, link₁⟩
    · rw [visitsFrom_left host plan deadline hbudget, List.length_cons]
      split
      · simp
      · exact Nat.succ_le_succ (ih _ _ _ _)
    · simp [visitsFrom_spent host plan deadline hbudget]

section history

variable (seed : UInt64) (link : Link σ)

theorem history_nth {k : Nat} {it : Iteration} (h : (history host plan seed link)[k]? = some it) :
    it.database = k ∧ it.seed = Random.nthSeed k (.ofSeed seed) ∧
      it.IsWork host plan (dueAt host plan seed link) := by
  obtain ⟨hdatabase, hseed, hwork⟩ := iterations_nth h
  exact ⟨by omega, hseed, hwork⟩

theorem history_length_le : (history host plan seed link).length ≤ plan.databases := by
  rw [history_eq_visits]
  exact Nat.le_trans (List.length_filterMap_le _ _) (visitsFrom_length_le _ _ _ _ _)

theorem history_ordered :
    (history host plan seed link).Pairwise fun it it' => it.database < it'.database := by
  rw [List.pairwise_iff_getElem]
  intro i j hi hj hij
  have hfirst := (history_nth seed link (List.getElem?_eq_getElem hi)).1
  have hsecond := (history_nth seed link (List.getElem?_eq_getElem hj)).1
  omega

end history

/-! ## Failures in order -/

/-- Failures of iterations in order are in order. -/
theorem failures_ordered {its : List Iteration}
    (hordered : its.Pairwise fun it it' => it.database < it'.database)
    (hsingle : ∀ it ∈ its, it.failures.length ≤ 1) :
    ((its.flatMap Iteration.failures).map Failure.database).Pairwise (· < ·) := by
  rw [List.pairwise_map, List.pairwise_flatMap]
  constructor
  · intro it hit
    have hlength := hsingle it hit
    rcases hfailures : it.failures with _ | ⟨failure, _ | _⟩
    · exact .nil
    · exact List.pairwise_singleton _ _
    · simp [hfailures] at hlength
  · refine hordered.imp fun hlt failure hfailure failure' hfailure' => ?_
    obtain ⟨_, -, rfl⟩ := List.mem_map.1 hfailure
    obtain ⟨_, -, rfl⟩ := List.mem_map.1 hfailure'
    exact hlt

/-! ## The report -/

/-- The report holds what the checks of the iterations came to, and nothing else. -/
structure Holds (report : Report) (its : List Iteration) : Prop where
  databases : report.databases = its.length
  checks : report.checks = (its.flatMap Iteration.verdicts).length
  passes : report.passes = (its.flatMap Iteration.verdicts).countP Verdict.isPass
  expectedErrors :
    report.expectedErrors = (its.flatMap Iteration.verdicts).countP Verdict.isExpected
  findings : report.findings = (its.flatMap Iteration.verdicts).filterMap Verdict.finding?
  failures : report.failures = its.flatMap Iteration.failures

theorem run_holds {seed : UInt64} {report : Report} {link : Link σ}
    (h : (run host plan seed link).1 = .ok report) :
    report.seed = seed ∧ Holds report (history host plan seed link) := by
  obtain ⟨⟨startedAt, finishedAt, hreport⟩, -⟩ := run_report h
  rw [foldl_absorb] at hreport
  have hdatabases := congrArg Report.databases hreport
  have hchecks := congrArg Report.checks hreport
  have hpasses := congrArg Report.passes hreport
  have hexpected := congrArg Report.expectedErrors hreport
  simp only [Nat.zero_add] at hdatabases hchecks hpasses hexpected
  have hfindings := congrArg Report.findings hreport
  have hfailures := congrArg Report.failures hreport
  simp only [List.nil_append] at hfindings hfailures
  have hseed : report.seed = seed := by rw [hreport]
  exact ⟨hseed, hdatabases, hchecks, hpasses, hexpected, hfindings, hfailures⟩

theorem Holds.clean_iff {report : Report} {its : List Iteration} (h : Holds report its) :
    report.isClean = true ↔
      ∀ it ∈ its, ∀ v ∈ it.verdicts, v.finding? = none ∧ v.failure? = none := by
  have hfindings : report.findings = [] ↔ ∀ it ∈ its, ∀ v ∈ it.verdicts, v.finding? = none := by
    rw [h.findings, List.filterMap_eq_nil_iff]
    simp only [List.mem_flatMap]
    constructor
    · intro hall it hit v hv
      exact hall v ⟨it, hit, hv⟩
    · rintro hall v ⟨it, hit, hv⟩
      exact hall it hit v hv
  have hfailures : report.failures = [] ↔ ∀ it ∈ its, ∀ v ∈ it.verdicts, v.failure? = none := by
    rw [h.failures, List.flatMap_eq_nil_iff]
    simp only [Iteration.failures, List.map_eq_nil_iff, List.filterMap_eq_nil_iff]
  rw [Report.isClean, Bool.and_eq_true, List.isEmpty_iff, List.isEmpty_iff, hfindings, hfailures]
  constructor
  · rintro ⟨hnofinding, hnofailure⟩ it hit v hv
    exact ⟨hnofinding it hit v hv, hnofailure it hit v hv⟩
  · intro hclean
    exact ⟨fun it hit v hv => (hclean it hit v hv).1, fun it hit v hv => (hclean it hit v hv).2⟩

/-- How the report of a campaign is put together from its history. -/
structure Assembled (host : Host σ) (plan : Plan) (seed : UInt64) (link : Link σ)
    (report : Report) : Prop where
  seed_eq : report.seed = seed
  databases_eq : report.databases = (history host plan seed link).length
  databases_le : report.databases ≤ plan.databases
  /-- The iterations are numbered and have the seeds drawn from that of the report, and each tells
  of the work on its database. -/
  iterations : ∀ k it, (history host plan seed link)[k]? = some it →
    it.database = k ∧ it.seed = Random.nthSeed k (.ofSeed report.seed) ∧
      it.IsWork host plan (dueAt host plan seed link)
  /-- The findings of all checks, one iteration after the other. -/
  findings : report.findings =
    (history host plan seed link).flatMap fun it => it.verdicts.filterMap Verdict.finding?
  failures : report.failures = (history host plan seed link).flatMap Iteration.failures
  ordered : (report.failures.map Failure.database).Pairwise (· < ·)
  below : ∀ failure ∈ report.failures, failure.database < report.databases
  drawn : ∀ failure ∈ report.failures,
    failure.seed = Random.nthSeed failure.database (.ofSeed report.seed)
  clean_iff : report.isClean = true ↔
    ∀ it ∈ history host plan seed link, ∀ v ∈ it.verdicts, v.finding? = none ∧ v.failure? = none

/-- **Reports are assembled in order and without loss.** If a campaign ends with a report, it holds
the findings of all checks in the order in which these were made, also where the work on a database
failed later. The failures stand in the order of the databases, with the seeds that were drawn for
them, and a clean report says that every check came out well. -/
theorem run_assembled {seed : UInt64} {report : Report} {link : Link σ}
    (h : (run host plan seed link).1 = .ok report) : Assembled host plan seed link report := by
  obtain ⟨hseed, hholds⟩ := run_holds h
  have hdatabases := hholds.databases
  have hfailures := hholds.failures
  -- Every failure belongs to an iteration of the history.
  have hentry : ∀ failure ∈ report.failures, failure.database < report.databases ∧
      failure.seed = Random.nthSeed failure.database (.ofSeed seed) := by
    intro failure hfailure
    rw [hfailures] at hfailure
    obtain ⟨it, hit, hmem⟩ := List.mem_flatMap.1 hfailure
    obtain ⟨_, -, rfl⟩ := List.mem_map.1 hmem
    obtain ⟨k, hk, hget⟩ := List.getElem_of_mem hit
    obtain ⟨hnumber, hdrawn, -⟩ := history_nth seed link (hget ▸ List.getElem?_eq_getElem hk)
    have hbelow : it.database < report.databases := by omega
    exact ⟨hbelow, hnumber.symm ▸ hdrawn⟩
  have hordered : (report.failures.map Failure.database).Pairwise (· < ·) := by
    rw [hfailures]
    refine failures_ordered (history_ordered seed link) fun it hit => ?_
    obtain ⟨k, hk, hget⟩ := List.getElem_of_mem hit
    obtain ⟨-, -, taken, -, -, hsingle⟩ :=
      history_nth seed link (hget ▸ List.getElem?_eq_getElem hk)
    exact hsingle
  subst hseed
  exact
    { seed_eq := rfl
      databases_eq := hdatabases
      databases_le := hdatabases ▸ history_length_le _ link
      iterations := fun k it => history_nth _ link
      findings := by rw [hholds.findings, List.filterMap_flatMap]
      failures := hfailures
      ordered := hordered
      below := fun failure hfailure => (hentry failure hfailure).1
      drawn := fun failure hfailure => (hentry failure hfailure).2
      clean_iff := hholds.clean_iff }

/-- Two databases and two rounds. -/
def pairPlan : Plan :=
  { listPlan with databases := 2 }

/-- The first database has a finding and a failure after it, the second has no tables to check. -/
theorem run_assembled_pair : ∃ report,
    (run listHost pairPlan 7 { engine := listReplies }).1 = .ok report ∧
      report.findings.length = 1 ∧ report.failures.map Failure.database = [0, 1] ∧
      Assembled listHost pairPlan 7 { engine := listReplies } report := by
  have hentries : (run listHost pairPlan 7 { engine := listReplies }).1.toOption.map
      (fun report => (report.findings.length, report.failures.map Failure.database)) =
        some (1, [0, 1]) := by decide +kernel
  cases h : (run listHost pairPlan 7 { engine := listReplies }).1 with
  | error e =>
    rw [h] at hentries
    cases hentries
  | ok report =>
    rw [h] at hentries
    simp only [Except.toOption, Option.map_some, Option.some.injEq, Prod.mk.injEq] at hentries
    obtain ⟨hfindings, hdatabases⟩ := hentries
    exact ⟨report, rfl, hfindings, hdatabases, run_assembled h⟩

end Campaign

end RowParity
