import Mathlib.Data.List.Basic
import RowParity.Proofs.Campaign.Assembly

/-!
# The rounds of a visit

A visit to a database is set up, by taking a connection and preparing the database, and then it goes
through its rounds. `Visit.setup?` and `Visit.rounds` tell what came of that. The budget is looked
at before every visit and before every round; `looks` lists what was seen. If the budget was never
used up, all databases are visited, and on a database without a failure all rounds are made, each
with one check for every member of the panel (`isFull_of_unspent`).
-/

namespace RowParity

variable {σ : Type}

/-! ## The members of a panel -/

/-- How many checks a round makes if none of them fails. -/
def Panel.size : Panel → Nat
  | .alone _ => 1
  | .suite members => members.members.length

theorem Panel.size_ofKinds (kinds : List OracleKind) :
    (Panel.ofKinds kinds).size = max 1 kinds.length := by
  rcases kinds with _ | ⟨kind, _ | ⟨other, kinds⟩⟩
  · rfl
  · rfl
  · simp only [ofKinds, size, List.length_map, List.length_cons]
    omega

/-- A suite none of whose members fails makes one check for each of them and keeps them all. -/
theorem Suite.runMembers_ok (x : Executor σ) {members : List Check.Memory} {s : Session σ}
    (h : (Suite.runMembers (Check.oracle x) members s).1.1 = .ok ()) :
    (Suite.runMembers (Check.oracle x) members s).1.2.1.length = members.length ∧
      (Suite.verdicts x members s).length = members.length := by
  induction members generalizing s with
  | nil => exact ⟨rfl, rfl⟩
  | cons memory members ih =>
    rw [runMembers_cons] at h ⊢
    rw [Suite.verdicts]
    rcases hrun : Check.run x memory s with ⟨⟨e | outcome, memory'⟩, s₁⟩ <;> rw [hrun] at h
    · cases h
    · obtain ⟨hmembers, hverdicts⟩ := ih h
      simp [hmembers, hverdicts]

theorem Panel.check_ok (x : Executor σ) {panel : Panel} {s : Session σ}
    (h : ((Panel.oracle x).check panel s).1.1 = .ok ()) :
    ((Panel.oracle x).check panel s).1.2.size = panel.size ∧
      (panel.verdicts x s).length = panel.size := by
  cases panel with
  | alone memory => exact ⟨rfl, rfl⟩
  | suite members => exact Suite.runMembers_ok x h

namespace Campaign

variable (host : Host σ) (plan : Plan) (deadline : Option Nat)

/-! ## Rounds -/

/-- A round: the panel and the session it starts from, what it comes to, and the verdicts of its
checks. -/
structure Round (σ : Type) where
  panel : Panel
  session : Session σ
  finish : (Except RunError Unit × Panel) × Session σ
  verdicts : List Verdict

def Round.IsDone (r : Round σ) : Prop :=
  r.finish.1.1 = .ok ()

/-- The round that starts from the panel and the session. -/
def roundOn (panel : Panel) (s : Session σ) : Round σ :=
  { panel, session := s, finish := round host plan panel s
    verdicts := roundVerdicts host plan panel s }

/-- The rounds that are started, of so many. -/
def roundsFrom (host : Host σ) (plan : Plan) (deadline : Option Nat) :
    Nat → Panel → Session σ → List (Round σ)
  | 0, _, _ => []
  | n + 1, panel, s =>
    match Step.onLink (budgetSpent host deadline) s with
    | (true, _) => []
    | (false, s) =>
      roundOn host plan panel s ::
        match round host plan panel s with
        | ((.error _, _), _) => []
        | ((.ok (), panel), s) => roundsFrom host plan deadline n panel s

/-- What is seen at the looks at the budget before these rounds: whether it is used up. -/
def roundsLooks (host : Host σ) (plan : Plan) (deadline : Option Nat) :
    Nat → Panel → Session σ → List Bool
  | 0, _, _ => []
  | n + 1, panel, s =>
    match Step.onLink (budgetSpent host deadline) s with
    | (true, _) => [true]
    | (false, s) =>
      false ::
        match round host plan panel s with
        | ((.error _, _), _) => []
        | ((.ok (), panel), s) => roundsLooks host plan deadline n panel s

/-- So many rounds take their course: `looks` is seen of the budget, `rs` are the rounds that are
started, and `finish` is how they end. -/
inductive RoundsRun : Nat → Panel → Session σ → List Bool → List (Round σ) →
    (Except RunError Unit × Panel) × Session σ → Prop
  | ended {panel : Panel} {s : Session σ} : RoundsRun 0 panel s [] [] ((.ok (), panel), s)
  | spent {n : Nat} {panel : Panel} {s s₁ : Session σ}
      (look : Step.onLink (budgetSpent host deadline) s = (true, s₁)) :
      RoundsRun (n + 1) panel s [true] [] ((.ok (), panel), s₁)
  | failed {n : Nat} {panel panel₁ : Panel} {s s₁ s₂ : Session σ} {e : RunError}
      (look : Step.onLink (budgetSpent host deadline) s = (false, s₁))
      (first : round host plan panel s₁ = ((.error e, panel₁), s₂)) :
      RoundsRun (n + 1) panel s [false] [roundOn host plan panel s₁] ((.error e, panel₁), s₂)
  | done {n : Nat} {panel panel₁ : Panel} {s s₁ s₂ : Session σ} {looks : List Bool}
      {rs : List (Round σ)} {finish : (Except RunError Unit × Panel) × Session σ}
      (look : Step.onLink (budgetSpent host deadline) s = (false, s₁))
      (first : round host plan panel s₁ = ((.ok (), panel₁), s₂))
      (rest : RoundsRun n panel₁ s₂ looks rs finish) :
      RoundsRun (n + 1) panel s (false :: looks) (roundOn host plan panel s₁ :: rs) finish

theorem rounds_run (n : Nat) (panel : Panel) (s : Session σ) :
    RoundsRun host plan deadline n panel s (roundsLooks host plan deadline n panel s)
      (roundsFrom host plan deadline n panel s) (rounds host plan deadline n panel s) := by
  induction n generalizing panel s with
  | zero => exact .ended
  | succ n ih =>
    rw [rounds_succ, roundsLooks, roundsFrom]
    rcases hlook : Step.onLink (budgetSpent host deadline) s with ⟨_ | _, s₁⟩
    · dsimp only
      rcases hround : round host plan panel s₁ with ⟨⟨e | _, panel₁⟩, s₂⟩
      · exact .failed hlook hround
      · exact .done hlook hround (ih panel₁ s₂)
    · exact .spent hlook

namespace RoundsRun

variable {host plan deadline} {n : Nat} {panel : Panel} {s : Session σ} {looks : List Bool}
  {rs : List (Round σ)} {finish : (Except RunError Unit × Panel) × Session σ}

theorem roundsVerdicts_eq (h : RoundsRun host plan deadline n panel s looks rs finish) :
    roundsVerdicts host plan deadline n panel s = rs.flatMap Round.verdicts := by
  induction h with
  | ended => rfl
  | spent look => rw [roundsVerdicts, look]; rfl
  | failed look first =>
    rw [roundsVerdicts, look]
    dsimp only
    rw [first]
    rfl
  | done look first rest ih =>
    rw [roundsVerdicts, look]
    dsimp only
    rw [first, List.flatMap_cons, ← ih]
    rfl

/-- The rounds as a whole fail just if one of them does. -/
theorem ok_iff (h : RoundsRun host plan deadline n panel s looks rs finish) :
    finish.1.1 = .ok () ↔ ∀ r ∈ rs, r.IsDone := by
  induction h with
  | ended => simp
  | spent look => simp
  | failed look first => simp [Round.IsDone, roundOn, first]
  | done look first rest ih => simp [ih, Round.IsDone, roundOn, first]

end RoundsRun

/-- A round that is done has made one check for each member of its panel, and left them all. -/
theorem round_done {panel panel₁ : Panel} {s s₁ : Session σ}
    (h : round host plan panel s = ((.ok (), panel₁), s₁)) :
    panel₁.size = panel.size ∧ (roundVerdicts host plan panel s).length = panel.size := by
  rw [round_apply] at h
  rw [roundVerdicts]
  rcases hmutate : (maybeMutate host plan).result s with ⟨e | _, s₂⟩ <;> rw [hmutate] at h
  · cases h
  · have hresult := congrArg (·.1.1) h
    have hpanel := congrArg (·.1.2) h
    obtain ⟨hsize, hverdicts⟩ := Panel.check_ok host.executor hresult
    dsimp only at hpanel
    rw [hpanel] at hsize
    exact ⟨hsize, hverdicts⟩

/-- If the budget lasts and nothing fails, all rounds are made. -/
theorem RoundsRun.full {host : Host σ} {plan : Plan} {deadline : Option Nat} {n : Nat}
    {panel : Panel} {s : Session σ} {looks : List Bool} {rs : List (Round σ)}
    {finish : (Except RunError Unit × Panel) × Session σ}
    (h : RoundsRun host plan deadline n panel s looks rs finish)
    (hlooks : ∀ look ∈ looks, look = false) (hfinish : finish.1.1 = .ok ()) :
    rs.length = n ∧ (rs.flatMap Round.verdicts).length = n * panel.size := by
  induction h with
  | ended => simp
  | spent look => simp at hlooks
  | failed look first => cases hfinish
  | @done n panel panel₁ s s₁ s₂ looks rs finish look first rest ih =>
    obtain ⟨hsize, hverdicts⟩ := round_done host plan first
    have hothers := (List.forall_mem_cons.1 hlooks).2
    obtain ⟨hlength, htotal⟩ := ih hothers hfinish
    have hround : (roundOn host plan panel s₁).verdicts.length = panel.size := hverdicts
    rw [hsize] at htotal
    constructor
    · rw [List.length_cons, hlength]
    · rw [List.flatMap_cons, List.length_append, hround, htotal, Nat.succ_mul]
      omega

/-! ## Visits -/

namespace Visit

variable (visit : Visit σ)

/-- The set-up of the database, if a connection was taken: what it came to, and the session
afterwards. -/
def setup? : Option (Except RunError Unit × Session σ) :=
  match Link.onEngine host.checkout visit.link with
  | (.error _, _) => none
  | (.ok (), taken) => some ((prepare host plan).result (Session.start taken visit.seed))

/-- The rounds that are started on the database. -/
def rounds : List (Round σ) :=
  match visit.setup? host plan with
  | some (.ok (), s) => roundsFrom host plan deadline plan.rounds (.ofKinds plan.oracles) s
  | _ => []

/-- What is seen at the looks at the budget before the rounds. -/
def looks : List Bool :=
  match visit.setup? host plan with
  | some (.ok (), s) => roundsLooks host plan deadline plan.rounds (.ofKinds plan.oracles) s
  | _ => []

def verdicts : List Verdict :=
  (visit.rounds host plan deadline).flatMap Round.verdicts

/-- The number of checks that the session has counted in the end. -/
def checks : Nat :=
  match Link.onEngine host.checkout visit.link with
  | (.error _, _) => 0
  | (.ok (), taken) => (visit.work host plan deadline taken).2.stats.checks

/-- Nothing failed: a connection was taken, the database prepared, and every round done. -/
def IsSmooth : Prop :=
  (∃ s, visit.setup? host plan = some (.ok (), s)) ∧
    ∀ r ∈ visit.rounds host plan deadline, r.IsDone

variable {host visit} {taken : Link σ}
  (htaken : Link.onEngine host.checkout visit.link = (.ok (), taken))

include htaken

theorem setup?_taken : visit.setup? host plan =
    some ((prepare host plan).result (Session.start taken visit.seed)) := by
  rw [setup?, htaken]

theorem verdicts_taken :
    visit.verdicts host plan deadline =
      workVerdicts host plan deadline (Session.start taken visit.seed) := by
  rw [verdicts, rounds, setup?_taken plan htaken, workVerdicts]
  rcases (prepare host plan).result (Session.start taken visit.seed) with ⟨e | _, s⟩
  · rfl
  · exact (rounds_run host plan deadline _ _ s).roundsVerdicts_eq.symm

theorem checks_taken :
    visit.checks host plan deadline = (visit.verdicts host plan deadline).length := by
  obtain ⟨hstats, -⟩ := work_accounted host plan deadline (Session.start taken visit.seed)
  have hchecks := congrArg Stats.checks hstats
  rw [Stats.afterAll_eq] at hchecks
  rw [checks, htaken, verdicts_taken plan deadline htaken]
  -- A fresh session has counted nothing yet.
  exact hchecks.trans (Nat.zero_add _)

theorem work_ok_iff :
    (visit.work host plan deadline taken).1.1 = .ok () ↔ visit.IsSmooth host plan deadline := by
  rw [IsSmooth, rounds, setup?_taken plan htaken, work, workDatabase_apply]
  rcases (prepare host plan).result (Session.start taken visit.seed) with ⟨e | _, s⟩
  · constructor
    · intro hok
      cases hok
    · rintro ⟨⟨_, hprepared⟩, -⟩
      cases hprepared
  · have hrounds := (rounds_run host plan deadline plan.rounds (.ofKinds plan.oracles) s).ok_iff
    dsimp only
    rw [hrounds]
    exact ⟨fun hdone => ⟨⟨s, rfl⟩, hdone⟩, fun hsmooth => hsmooth.2⟩

end Visit

/-! ## All visits -/

/-- The visit as an entry of the history, with the verdicts of its rounds. -/
def Visit.entry (visit : Visit σ) : Iteration :=
  ⟨visit.number, visit.seed, visit.verdicts host plan deadline⟩

variable {host plan deadline}

theorem Visit.iteration?_taken {visit : Visit σ} {taken : Link σ}
    (h : Link.onEngine host.checkout visit.link = (.ok (), taken)) :
    visit.iteration? host plan deadline = some (visit.entry host plan deadline) := by
  rw [iteration?, h, entry, visit.verdicts_taken plan deadline h]
  rfl

/-- Nothing failed, so there is no failure to report. -/
theorem Visit.IsSmooth.failures_eq {visit : Visit σ} (h : visit.IsSmooth host plan deadline) :
    (visit.entry host plan deadline).failures = [] := by
  obtain ⟨⟨s, hsetup⟩, -⟩ := id h
  rcases htaken : Link.onEngine host.checkout visit.link with ⟨cause | _, taken⟩
  · rw [setup?, htaken] at hsetup
    cases hsetup
  · obtain ⟨-, hended⟩ := work_accounted host plan deadline (Session.start taken visit.seed)
    have hok := (visit.work_ok_iff plan deadline htaken).2 h
    rw [work] at hok
    rw [hok, ← visit.verdicts_taken plan deadline htaken] at hended
    exact (@Iteration.failures_finished (visit.entry host plan deadline) _ hended).1

theorem Visit.IsSmooth.outcome_eq {visit : Visit σ} (h : visit.IsSmooth host plan deadline) :
    ∃ report left, visit.outcome host plan deadline = (.ok report, left) := by
  obtain ⟨⟨s, hsetup⟩, -⟩ := id h
  rw [outcome, database_apply]
  rcases htaken : Link.onEngine host.checkout visit.link with ⟨cause | _, taken⟩
  · rw [setup?, htaken] at hsetup
    cases hsetup
  · have hok := (visit.work_ok_iff plan deadline htaken).2 h
    rw [work] at hok
    dsimp only
    rw [hok]
    exact ⟨_, _, rfl⟩

section reported

variable {seed : UInt64} {link : Link σ} {report : Report}
  (h : (run host plan seed link).1 = .ok report)

include h

/-- In a campaign that ends with a report every visit leads to a report. -/
theorem visits_reported : ∀ visit ∈ visits host plan seed link, ∃ report left,
    visit.outcome host plan (dueAt host plan seed link) = (.ok report, left) := by
  have hcloses := run_closes host plan seed link
  generalize visits host plan seed link = visits at hcloses ⊢
  cases hcloses with
  | reported ok all => exact all
  | aborted all error same =>
    rw [same] at h
    cases h

theorem visits_taken : ∀ visit ∈ visits host plan seed link, ∃ taken,
    Link.onEngine host.checkout visit.link = (.ok (), taken) := by
  intro visit hvisit
  obtain ⟨report', left, houtcome⟩ := visits_reported h visit hvisit
  obtain ⟨taken, htaken, -⟩ := visit.outcome_eq_addTo host plan _ houtcome
  exact ⟨taken, htaken⟩

/-- The report holds what the visits came to. -/
theorem visits_hold :
    Holds report ((visits host plan seed link).map
      (Visit.entry host plan (dueAt host plan seed link))) := by
  have hhistory : history host plan seed link = (visits host plan seed link).map
      (Visit.entry host plan (dueAt host plan seed link)) := by
    rw [history_eq_visits, List.filterMap_eq_map_iff_forall_eq_some]
    intro visit hvisit
    obtain ⟨taken, htaken⟩ := visits_taken h visit hvisit
    exact Visit.iteration?_taken htaken
  obtain ⟨-, hholds⟩ := run_holds h
  rwa [hhistory] at hholds

/-- Every database visited is counted. -/
theorem databases_eq_length : report.databases = (visits host plan seed link).length := by
  rw [(visits_hold h).databases, List.length_map]

/-- Nothing failed during a visit that has no failure in the report. -/
theorem visit_isSmooth {visit : Visit σ} (hvisit : visit ∈ visits host plan seed link)
    (hnone : ∀ failure ∈ report.failures, failure.database ≠ visit.number) :
    visit.IsSmooth host plan (dueAt host plan seed link) := by
  obtain ⟨report', left, houtcome⟩ := visits_reported h visit hvisit
  obtain ⟨taken, htaken⟩ := visits_taken h visit hvisit
  rw [← visit.work_ok_iff plan _ htaken]
  rw [Visit.outcome, database_apply, htaken] at houtcome
  rcases conclude_ok houtcome with ⟨hok, -⟩ | ⟨e, herror, hwell, -⟩
  · exact hok
  · -- An error that does not end the campaign is entered as a failure.
    let entry := visit.entry host plan (dueAt host plan seed link)
    obtain ⟨-, hended⟩ := work_accounted host plan (dueAt host plan seed link)
      (Session.start taken visit.seed)
    rw [herror, ← visit.verdicts_taken plan _ htaken] at hended
    have hfailures := (@Iteration.failures_failed entry _ e hended hwell).1
    have hentered : ∀ failure ∈ entry.failures, failure ∈ report.failures := by
      intro failure hfailure
      rw [(visits_hold h).failures]
      exact List.mem_flatMap.2 ⟨entry, List.mem_map_of_mem hvisit, hfailure⟩
    rw [hfailures] at hentered
    exact absurd rfl (hnone _ (hentered _ List.mem_cons_self))

end reported

/-- If nothing fails during any visit, the campaign ends with a report without failures. -/
theorem run_smooth {seed : UInt64} {link : Link σ}
    (h : ∀ visit ∈ visits host plan seed link,
      visit.IsSmooth host plan (dueAt host plan seed link)) :
    ∃ report, (run host plan seed link).1 = .ok report ∧ report.failures = [] := by
  have hreport : ∃ report, (run host plan seed link).1 = .ok report := by
    have hcloses := run_closes host plan seed link
    generalize visits host plan seed link = visits at hcloses h
    cases hcloses with
    | reported ok all => exact ⟨_, ok⟩
    | @aborted earlier last e left all error same =>
      obtain ⟨report, left, houtcome⟩ := (h last (by simp)).outcome_eq
      rw [error] at houtcome
      cases houtcome
  obtain ⟨report, hok⟩ := hreport
  refine ⟨report, hok, ?_⟩
  rw [(visits_hold hok).failures, List.flatMap_eq_nil_iff]
  intro entry hentry
  obtain ⟨visit, hvisit, rfl⟩ := List.mem_map.1 hentry
  exact (h visit hvisit).failures_eq

/-! ## Budgets that last -/

/-- What is seen at the looks at the budget before that many databases and before their rounds. -/
def looksFrom (host : Host σ) (plan : Plan) (deadline : Option Nat) :
    Nat → Nat → Random.Source → Report → Link σ → List Bool
  | 0, _, _, _, _ => []
  | n + 1, number, seeds, report, link =>
    match budgetSpent host deadline link with
    | (true, _) => [true]
    | (false, link) =>
      let drawn := Random.freshSeed seeds
      false :: Visit.looks host plan deadline ⟨number, drawn.1, report, link⟩ ++
        match database host plan deadline number drawn.1 report link with
        | (.error _, _) => []
        | (.ok report, link) => looksFrom host plan deadline n (number + 1) drawn.2 report link

/-- What a campaign sees at its looks at the budget. -/
def looks (host : Host σ) (plan : Plan) (seed : UInt64) (link : Link σ) : List Bool :=
  let opened := opening host plan seed link
  looksFrom host plan opened.2.1 plan.databases 0 (.ofSeed seed) { seed, startedAt := opened.1 }
    opened.2.2

/-- If the budget lasts and nothing fails during a visit, all its rounds are made. -/
theorem Visit.full {visit : Visit σ}
    (hlooks : ∀ look ∈ visit.looks host plan deadline, look = false)
    (hsmooth : visit.IsSmooth host plan deadline) :
    (visit.rounds host plan deadline).length = plan.rounds ∧
      (visit.verdicts host plan deadline).length = plan.rounds * max 1 plan.oracles.length := by
  obtain ⟨⟨s, hsetup⟩, hdone⟩ := hsmooth
  have hrun := rounds_run host plan deadline plan.rounds (.ofKinds plan.oracles) s
  rw [looks, hsetup] at hlooks
  rw [verdicts]
  rw [rounds, hsetup] at hdone ⊢
  rw [← Panel.size_ofKinds]
  exact hrun.full hlooks (hrun.ok_iff.2 hdone)

/-- If the budget lasts, all databases are visited. -/
theorem visitsFrom_full {n number : Nat} {seeds : Random.Source} {report report' : Report}
    {link : Link σ}
    (hlooks : ∀ look ∈ looksFrom host plan deadline n number seeds report link, look = false)
    (h : (databases host plan deadline n number seeds report link).1 = .ok report') :
    (visitsFrom host plan deadline n number seeds report link).length = n ∧
      ∀ visit ∈ visitsFrom host plan deadline n number seeds report link,
        ∀ look ∈ visit.looks host plan deadline, look = false := by
  induction n generalizing number seeds report link with
  | zero => simp [visitsFrom]
  | succ n ih =>
    rw [databases_succ] at h
    rw [looksFrom] at hlooks
    rcases hbudget : budgetSpent host deadline link with ⟨_ | _, link₁⟩ <;>
      rw [hbudget] at h hlooks <;> dsimp only at h hlooks
    · rw [visitsFrom_left host plan deadline hbudget]
      obtain ⟨hvisit, hothers⟩ := List.forall_mem_append.1 hlooks
      have hrounds := (List.forall_mem_cons.1 hvisit).2
      rcases hrun : database host plan deadline number (Random.freshSeed seeds).1 report link₁ with
        ⟨e | report₁, link₂⟩ <;> rw [hrun] at h hothers
      · cases h
      · obtain ⟨hlength, hall⟩ := ih hothers h
        exact ⟨congrArg (· + 1) hlength, List.forall_mem_cons.2 ⟨hrounds, hall⟩⟩
    · have hnever : true = false := hlooks true List.mem_cons_self
      cases hnever

/-- All databases were visited, and on those without a failure all rounds were made. -/
structure IsFull (host : Host σ) (plan : Plan) (seed : UInt64) (link : Link σ) (report : Report) :
    Prop where
  databases : report.databases = plan.databases
  rounds : ∀ visit ∈ visits host plan seed link,
    (∀ failure ∈ report.failures, failure.database ≠ visit.number) →
      (visit.rounds host plan (dueAt host plan seed link)).length = plan.rounds ∧
        visit.checks host plan (dueAt host plan seed link) =
          plan.rounds * max 1 plan.oracles.length

theorem isFull_of_unspent {seed : UInt64} {link : Link σ} {report : Report}
    (hlooks : ∀ look ∈ looks host plan seed link, look = false)
    (h : (run host plan seed link).1 = .ok report) : IsFull host plan seed link report := by
  have hdatabases : ∃ report', (databases host plan (opening host plan seed link).2.1
      plan.databases 0 (.ofSeed seed) { seed, startedAt := (opening host plan seed link).1 }
      (opening host plan seed link).2.2).1 = .ok report' := by
    rw [run_apply] at h
    dsimp only at h
    split at h
    · cases h
    · next report' _ hrun => exact ⟨report', congrArg Prod.fst hrun⟩
  obtain ⟨report', hreport'⟩ := hdatabases
  obtain ⟨hlength, hvisits⟩ := visitsFrom_full hlooks hreport'
  refine ⟨(databases_eq_length h).trans hlength, fun visit hvisit hnone => ?_⟩
  have hsmooth := visit_isSmooth h hvisit hnone
  obtain ⟨taken, htaken⟩ := visits_taken h visit hvisit
  rw [Visit.checks_taken plan _ htaken]
  exact Visit.full (hvisits visit hvisit) hsmooth

end Campaign

end RowParity
