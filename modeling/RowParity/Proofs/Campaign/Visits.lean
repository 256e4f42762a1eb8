import RowParity.Proofs.Campaign.Accounting

/-!
# Visits

A campaign visits its databases one after the other. A visit begins after the look at the budget,
with the number and the seed of the database, and it goes on until the database is entered in the
report or the campaign ends. `visits` follows the campaign and lists them.
-/

namespace RowParity.Campaign

variable {σ : Type}

/-- A database that a campaign comes to, with the report so far and the link as it is then. -/
structure Visit (σ : Type) where
  number : Nat
  seed : UInt64
  report : Report
  link : Link σ

/-- The visits to that many databases, numbered from `number` on, with seeds drawn from `seeds`. -/
def visitsFrom (host : Host σ) (plan : Plan) (deadline : Option Nat) :
    Nat → Nat → Random.Source → Report → Link σ → List (Visit σ)
  | 0, _, _, _, _ => []
  | n + 1, number, seeds, report, link =>
    match budgetSpent host deadline link with
    | (true, _) => []
    | (false, link) =>
      let drawn := Random.freshSeed seeds
      ⟨number, drawn.1, report, link⟩ ::
        match database host plan deadline number drawn.1 report link with
        | (.error _, _) => []
        | (.ok report, link) => visitsFrom host plan deadline n (number + 1) drawn.2 report link

/-- The deadline of a campaign that starts on the link. -/
def dueAt (host : Host σ) (plan : Plan) (seed : UInt64) (link : Link σ) : Option Nat :=
  (opening host plan seed link).2.1

def visits (host : Host σ) (plan : Plan) (seed : UInt64) (link : Link σ) : List (Visit σ) :=
  let opened := opening host plan seed link
  visitsFrom host plan opened.2.1 plan.databases 0 (.ofSeed seed) { seed, startedAt := opened.1 }
    opened.2.2

namespace Visit

variable (host : Host σ) (plan : Plan) (deadline : Option Nat) (visit : Visit σ)

/-- What the visit leads to: the report with the database entered, or the error that ends the
campaign. -/
def outcome : Except RunError Report × Link σ :=
  database host plan deadline visit.number visit.seed visit.report visit.link

/-- The work on the database once its connection has been taken. -/
def work (taken : Link σ) : (Except RunError Unit × Panel) × Session σ :=
  workDatabase host plan deadline (Session.start taken visit.seed)

end Visit

/-! ## How a campaign ends -/

variable (host : Host σ) (plan : Plan) (deadline : Option Nat)

theorem visitsFrom_spent {n number : Nat} {seeds : Random.Source} {report : Report}
    {link link₁ : Link σ} (h : budgetSpent host deadline link = (true, link₁)) :
    visitsFrom host plan deadline (n + 1) number seeds report link = [] := by
  rw [visitsFrom, h]

theorem visitsFrom_left {n number : Nat} {seeds : Random.Source} {report : Report}
    {link link₁ : Link σ} (h : budgetSpent host deadline link = (false, link₁)) :
    visitsFrom host plan deadline (n + 1) number seeds report link =
      ⟨number, (Random.freshSeed seeds).1, report, link₁⟩ ::
        match database host plan deadline number (Random.freshSeed seeds).1 report link₁ with
        | (.error _, _) => []
        | (.ok report, link₂) =>
          visitsFrom host plan deadline n (number + 1) (Random.freshSeed seeds).2 report link₂ := by
  rw [visitsFrom, h]

/-- Either every visit leads to a report and so does the campaign, or the last visit leads to an
error, and the campaign ends just as that visit does. -/
inductive Closes (result : Except RunError Report × Link σ) : List (Visit σ) → Prop
  | reported {visits : List (Visit σ)} {report : Report} (ok : result.1 = .ok report)
      (all : ∀ visit ∈ visits,
        ∃ report link, visit.outcome host plan deadline = (.ok report, link)) :
      Closes result visits
  | aborted {earlier : List (Visit σ)} {last : Visit σ} {e : RunError} {link : Link σ}
      (all : ∀ visit ∈ earlier,
        ∃ report link, visit.outcome host plan deadline = (.ok report, link))
      (error : last.outcome host plan deadline = (.error e, link))
      (same : result = (.error e, link)) : Closes result (earlier ++ [last])

theorem Closes.cons {result : Except RunError Report × Link σ} {visits : List (Visit σ)}
    {visit : Visit σ} {report : Report} {link : Link σ}
    (hvisit : visit.outcome host plan deadline = (.ok report, link))
    (h : Closes host plan deadline result visits) :
    Closes host plan deadline result (visit :: visits) := by
  cases h with
  | reported ok all => exact .reported ok (List.forall_mem_cons.2 ⟨⟨report, link, hvisit⟩, all⟩)
  | aborted all error same =>
    exact .aborted (List.forall_mem_cons.2 ⟨⟨report, link, hvisit⟩, all⟩) error same

/-- Which report a campaign ends with does not matter. -/
theorem Closes.of_ok {result result' : Except RunError Report × Link σ} {visits : List (Visit σ)}
    {report report' : Report} (h : Closes host plan deadline result visits)
    (hok : result.1 = .ok report) (hok' : result'.1 = .ok report') :
    Closes host plan deadline result' visits := by
  cases h with
  | reported _ all => exact .reported hok' all
  | aborted _ _ same =>
    rw [same] at hok
    cases hok

theorem databases_closes (n number : Nat) (seeds : Random.Source) (report : Report)
    (link : Link σ) :
    Closes host plan deadline (databases host plan deadline n number seeds report link)
      (visitsFrom host plan deadline n number seeds report link) := by
  induction n generalizing number seeds report link with
  | zero => exact .reported rfl (List.forall_mem_nil _)
  | succ n ih =>
    rw [databases_succ]
    rcases hbudget : budgetSpent host deadline link with ⟨_ | _, link₁⟩
    · rw [visitsFrom_left host plan deadline hbudget]
      dsimp only
      rcases hrun : database host plan deadline number (Random.freshSeed seeds).1 report link₁ with
        ⟨e | report₁, link₂⟩
      · exact @Closes.aborted _ host plan deadline _ [] _ e link₂ (List.forall_mem_nil _) hrun rfl
      · exact (ih _ _ _ _).cons host plan deadline hrun
    · rw [visitsFrom_spent host plan deadline hbudget]
      exact .reported rfl (List.forall_mem_nil _)

theorem run_closes (seed : UInt64) (link : Link σ) :
    Closes host plan (dueAt host plan seed link) (run host plan seed link)
      (visits host plan seed link) := by
  unfold visits dueAt
  rw [run_apply]
  dsimp only
  generalize opening host plan seed link = opened
  have hcloses := databases_closes host plan opened.2.1 plan.databases 0 (.ofSeed seed)
    { seed, startedAt := opened.1 } opened.2.2
  rcases hrun : databases host plan opened.2.1 plan.databases 0 (.ofSeed seed)
    { seed, startedAt := opened.1 } opened.2.2 with ⟨e | report, link₁⟩ <;> rw [hrun] at hcloses
  · exact hcloses
  · exact hcloses.of_ok host plan opened.2.1 rfl rfl

end RowParity.Campaign
