import RowParity.Proofs.Campaign.Rounds

/-!
# Stopping a campaign

A request to stop is heard at the looks at the budget only. So a campaign that is asked to stop
does what it would have done unasked, up to the next visit or the next round: what has been started
is carried through, and nothing is started any more (`run_stops`). The proof compares the campaign
with the same one on a host on which nobody asks (`Host.unstopped`). Both do the same until the
flag is raised, and from then on one of them starts nothing and the flag stays raised in the other.
-/

namespace RowParity

variable {σ : Type}

/-- The host as it would be if nobody asked the campaign to stop. -/
def Host.unstopped (host : Host σ) : Host σ :=
  { host with stopRequested := return false }

/-- The request to stop is a flag in the state of the engine. It can be raised by any call to the
engine, though not by reading the clock, and it is never lowered. -/
structure Host.HasFlag (host : Host σ) (raised : σ → Bool) : Prop where
  read : ∀ engine, host.stopRequested engine = (raised engine, engine)
  clock : ∀ engine, raised (host.clock engine).2 = raised engine
  wallClock : ∀ engine, raised engine = true → raised (host.wallClock engine).2 = true
  checkout : ∀ engine, raised engine = true → raised (host.checkout engine).2 = true
  executor : host.executor.Maintains fun engine => raised engine = true

namespace Campaign

variable {host : Host σ} {raised : σ → Bool}

/-! ## One database after the other -/

/-- The visits after a database that came to this result. -/
def visitsAfter (host : Host σ) (plan : Plan) (deadline : Option Nat) (n number : Nat)
    (seeds : Random.Source) : Except RunError Report × Link σ → List (Visit σ)
  | (.error _, _) => []
  | (.ok report, link) => visitsFrom host plan deadline n number seeds report link

theorem visitsFrom_next (host : Host σ) (plan : Plan) (deadline : Option Nat) {n number : Nat}
    {seeds : Random.Source} {report : Report} {link link₁ : Link σ}
    (h : budgetSpent host deadline link = (false, link₁)) :
    visitsFrom host plan deadline (n + 1) number seeds report link =
      ⟨number, (Random.freshSeed seeds).1, report, link₁⟩ ::
        visitsAfter host plan deadline n (number + 1) (Random.freshSeed seeds).2
          (database host plan deadline number (Random.freshSeed seeds).1 report link₁) := by
  rw [visitsFrom_left host plan deadline h]
  rcases database host plan deadline number (Random.freshSeed seeds).1 report link₁ with
    ⟨e | report₁, link₂⟩
  · rfl
  · rfl

/-! ## Looks at the budget -/

theorem budgetSpent_asked {deadline : Option Nat} {link : Link σ} {engine : σ}
    (h : host.stopRequested link.engine = (true, engine)) :
    budgetSpent host deadline link = (true, { link with engine }) := by
  unfold budgetSpent
  rw [Link.bind_apply, Link.onEngine, h]
  rfl

theorem budgetSpent_unasked {deadline : Option Nat} {link : Link σ} {engine : σ}
    (h : host.stopRequested link.engine = (false, engine)) :
    budgetSpent host deadline link =
      match deadline with
      | none => (false, { link with engine })
      | some moment =>
        (moment ≤ (host.clock engine).1, { link with engine := (host.clock engine).2 }) := by
  unfold budgetSpent
  rw [Link.bind_apply, Link.onEngine, h]
  cases deadline <;> rfl

theorem prepare_unstopped (plan : Plan) : prepare host.unstopped plan = prepare host plan :=
  rfl

theorem round_unstopped (plan : Plan) (panel : Panel) :
    round host.unstopped plan panel = round host plan panel :=
  rfl

section flag

variable (hflag : host.HasFlag raised) (plan : Plan) (deadline : Option Nat)

include hflag

/-- With the flag raised, a look says that the budget is used up and changes nothing. -/
theorem budgetSpent_raised {link : Link σ} (h : raised link.engine = true) :
    budgetSpent host deadline link = (true, link) := by
  have hread : host.stopRequested link.engine = (true, link.engine) := by rw [hflag.read, h]
  exact budgetSpent_asked hread

/-- With the flag down, a look sees what it would see if nobody asked. -/
theorem budgetSpent_down {link : Link σ} (h : raised link.engine = false) :
    budgetSpent host deadline link = budgetSpent host.unstopped deadline link := by
  have hread : host.stopRequested link.engine = (false, link.engine) := by rw [hflag.read, h]
  have hunasked : host.unstopped.stopRequested link.engine = (false, link.engine) := rfl
  rw [budgetSpent_unasked hread, budgetSpent_unasked hunasked]
  rfl

/-- A look neither raises the flag nor lowers it. -/
theorem raised_unstopped (link : Link σ) :
    raised (budgetSpent host.unstopped deadline link).2.engine = raised link.engine := by
  have hunasked : host.unstopped.stopRequested link.engine = (false, link.engine) := rfl
  rw [budgetSpent_unasked hunasked]
  cases deadline with
  | none => rfl
  | some moment => exact hflag.clock link.engine

/-- The look before a round, with the flag down and with nobody asking. -/
theorem look_down {s : Session σ} (h : raised s.engine = false) :
    Step.onLink (budgetSpent host deadline) s =
      Step.onLink (budgetSpent host.unstopped deadline) s := by
  rw [Step.onLink, budgetSpent_down hflag deadline h]
  rfl

theorem look_raised {s : Session σ} (h : raised s.engine = true) :
    Step.onLink (budgetSpent host deadline) s = (true, s) := by
  rw [Step.onLink, budgetSpent_raised hflag deadline h]

theorem raised_look {deadline : Option Nat} {s s₁ : Session σ} {spent : Bool}
    (h : Step.onLink (budgetSpent host.unstopped deadline) s = (spent, s₁)) :
    raised s₁.engine = raised s.engine := by
  cases h
  exact raised_unstopped hflag deadline s.toLink

/-! ## Rounds -/

theorem raised_rounds {n : Nat} {panel : Panel} {s : Session σ} (h : raised s.engine = true) :
    raised (rounds host.unstopped plan deadline n panel s).2.engine = true := by
  have hframe : Frame host.unstopped.executor
      (Session.KeepsEngine fun engine => raised engine = true) := hflag.executor.frame
  refine rounds_keeps hframe plan (fun _ _ => id) ?_ n panel s h
  intro s hs
  exact (raised_unstopped hflag deadline s.toLink).trans hs

theorem roundsFrom_raised {n : Nat} {panel : Panel} {s : Session σ} (h : raised s.engine = true) :
    roundsFrom host plan deadline n panel s = [] := by
  cases n with
  | zero => rfl
  | succ n => rw [roundsFrom, look_raised hflag deadline h]

/-- The rounds that are started are those that are started anyway before the flag is raised. -/
theorem roundsFrom_eq_takeWhile (n : Nat) (panel : Panel) (s : Session σ) :
    roundsFrom host plan deadline n panel s =
      (roundsFrom host.unstopped plan deadline n panel s).takeWhile
        fun r => !raised r.session.engine := by
  induction n generalizing panel s with
  | zero => rfl
  | succ n ih =>
    cases hs : raised s.engine with
    | true =>
      rw [roundsFrom_raised hflag plan deadline hs, roundsFrom]
      rcases hlook : Step.onLink (budgetSpent host.unstopped deadline) s with ⟨_ | _, s₁⟩
      · have hs₁ : raised s₁.engine = true := (raised_look hflag hlook).trans hs
        simp [roundOn, hs₁]
      · rfl
    | false =>
      rw [roundsFrom, roundsFrom, look_down hflag deadline hs]
      rcases hlook : Step.onLink (budgetSpent host.unstopped deadline) s with ⟨_ | _, s₁⟩
      · have hs₁ : raised s₁.engine = false := (raised_look hflag hlook).trans hs
        have hdown : (!raised (roundOn host.unstopped plan panel s₁).session.engine) = true := by
          simp [roundOn, hs₁]
        dsimp only
        rw [List.takeWhile_cons, if_pos hdown, round_unstopped]
        rcases round host plan panel s₁ with ⟨⟨e | _, panel₁⟩, s₂⟩
        · rfl
        · exact congrArg _ (ih panel₁ s₂)
      · rfl

/-- The rounds come to the same, unless the flag is raised on the way; then they end well, and the
flag is also raised when the rounds of the unstopped host end. -/
theorem rounds_agree (n : Nat) (panel : Panel) (s : Session σ) :
    rounds host plan deadline n panel s = rounds host.unstopped plan deadline n panel s ∨
      (rounds host plan deadline n panel s).1.1 = .ok () ∧
        raised (rounds host plan deadline n panel s).2.engine = true ∧
        raised (rounds host.unstopped plan deadline n panel s).2.engine = true := by
  induction n generalizing panel s with
  | zero => exact .inl rfl
  | succ n ih =>
    cases hs : raised s.engine with
    | true =>
      have hstopped : rounds host plan deadline (n + 1) panel s = ((.ok (), panel), s) := by
        rw [rounds_succ, look_raised hflag deadline hs]
      rw [hstopped]
      exact .inr ⟨rfl, hs, raised_rounds hflag plan deadline hs⟩
    | false =>
      rw [rounds_succ, rounds_succ, look_down hflag deadline hs]
      rcases Step.onLink (budgetSpent host.unstopped deadline) s with ⟨_ | _, s₁⟩
      · dsimp only
        rw [round_unstopped]
        rcases round host plan panel s₁ with ⟨⟨e | _, panel₁⟩, s₂⟩
        · exact .inl rfl
        · exact ih panel₁ s₂
      · exact .inl rfl

theorem workDatabase_agree (s : Session σ) :
    workDatabase host plan deadline s = workDatabase host.unstopped plan deadline s ∨
      (workDatabase host plan deadline s).1.1 = .ok () ∧
        raised (workDatabase host plan deadline s).2.engine = true ∧
        raised (workDatabase host.unstopped plan deadline s).2.engine = true := by
  rw [workDatabase_apply, workDatabase_apply, prepare_unstopped]
  rcases (prepare host plan).result s with ⟨e | _, s₁⟩
  · exact .inl rfl
  · exact rounds_agree hflag plan deadline plan.rounds _ s₁

omit hflag in
/-- Entering the work in the report does not touch the engine. -/
theorem conclude_engine (number : Nat) (seed : UInt64) (lastQuery : Option String)
    (report : Report) (result : Except RunError Unit) (link : Link σ) :
    (conclude number seed lastQuery report result link).2.engine = link.engine := by
  cases result with
  | ok _ => rfl
  | error e =>
    cases hlost : e.isDisconnect with
    | true =>
      rw [conclude, if_pos hlost]
      rfl
    | false =>
      rw [conclude, if_neg (by simp [hlost])]
      rfl

/-- A database comes to the same, unless the flag is raised during the work on it; then it is
entered in the report. -/
theorem database_agree (number : Nat) (seed : UInt64) (report : Report) (link : Link σ) :
    database host plan deadline number seed report link =
        database host.unstopped plan deadline number seed report link ∨
      (∃ report', (database host plan deadline number seed report link).1 = .ok report') ∧
        raised (database host plan deadline number seed report link).2.engine = true ∧
        raised (database host.unstopped plan deadline number seed report link).2.engine = true := by
  rw [database_apply, database_apply]
  have hcheckout : host.unstopped.checkout = host.checkout := rfl
  rw [hcheckout]
  rcases Link.onEngine host.checkout link with ⟨cause | _, taken⟩
  · exact .inl rfl
  dsimp only
  rcases workDatabase_agree hflag plan deadline (Session.start taken seed) with
    hsame | ⟨hok, hraised, hraised'⟩
  · rw [hsame]
    exact .inl rfl
  · rw [conclude_engine, conclude_engine, hok]
    exact .inr ⟨⟨_, rfl⟩, hraised, hraised'⟩

/-! ## Visits -/

theorem visitsFrom_raised {n number : Nat} {seeds : Random.Source} {report : Report}
    {link : Link σ} (h : raised link.engine = true) :
    visitsFrom host plan deadline n number seeds report link = [] := by
  cases n with
  | zero => rfl
  | succ n => rw [visitsFrom_spent host plan deadline (budgetSpent_raised hflag deadline h)]

/-- Where visits are those that are made anyway before the flag is raised, so are the visits after
one more database that comes to the same, or that raises the flag. -/
theorem visitsAfter_eq_takeWhile {n number : Nat} {seeds : Random.Source}
    {result result' : Except RunError Report × Link σ}
    (hvisits : ∀ report link, visitsFrom host plan deadline n number seeds report link =
      (visitsFrom host.unstopped plan deadline n number seeds report link).takeWhile
        fun visit => !raised visit.link.engine)
    (h : result = result' ∨
      raised result.2.engine = true ∧ raised result'.2.engine = true) :
    visitsAfter host plan deadline n number seeds result =
      (visitsAfter host.unstopped plan deadline n number seeds result').takeWhile
        fun visit => !raised visit.link.engine := by
  rcases result' with ⟨e' | report', link'⟩
  · rcases result with ⟨e | report, link⟩
    · rfl
    · rcases h with hsame | ⟨hraised, -⟩
      · cases hsame
      · exact visitsFrom_raised hflag plan deadline hraised
  · have hlater : visitsAfter host.unstopped plan deadline n number seeds (.ok report', link') =
        visitsFrom host.unstopped plan deadline n number seeds report' link' := rfl
    rw [hlater, ← hvisits]
    rcases h with rfl | ⟨hraised, hraised'⟩
    · rfl
    · rw [visitsFrom_raised hflag plan deadline hraised']
      rcases result with ⟨e | report, link⟩
      · rfl
      · exact visitsFrom_raised hflag plan deadline hraised

/-- The databases that are visited are those that are visited anyway before the flag is raised. -/
theorem visitsFrom_eq_takeWhile (n number : Nat) (seeds : Random.Source) (report : Report)
    (link : Link σ) :
    visitsFrom host plan deadline n number seeds report link =
      (visitsFrom host.unstopped plan deadline n number seeds report link).takeWhile
        fun visit => !raised visit.link.engine := by
  induction n generalizing number seeds report link with
  | zero => rfl
  | succ n ih =>
    have hlook := raised_unstopped hflag deadline link
    rcases hbudget : budgetSpent host.unstopped deadline link with ⟨_ | _, link₁⟩ <;>
      rw [hbudget] at hlook
    · rw [visitsFrom_next host.unstopped plan deadline hbudget]
      cases hraised : raised link.engine with
      | true =>
        rw [visitsFrom_raised hflag plan deadline hraised]
        simp [hlook, hraised]
      | false =>
        have hsame := budgetSpent_down hflag deadline hraised
        have hdown : (!raised link₁.engine) = true := by simp [hlook, hraised]
        rw [hbudget] at hsame
        rw [visitsFrom_next host plan deadline hsame, List.takeWhile_cons, if_pos hdown]
        refine congrArg _ (visitsAfter_eq_takeWhile hflag plan deadline (fun _ _ => ih _ _ _ _) ?_)
        rcases database_agree hflag plan deadline number (Random.freshSeed seeds).1 report link₁
          with hwork | ⟨-, hstopped, hlater⟩
        · exact .inl hwork
        · exact .inr ⟨hstopped, hlater⟩
    · rw [visitsFrom_spent host.unstopped plan deadline hbudget]
      cases hraised : raised link.engine with
      | true => exact visitsFrom_raised hflag plan deadline hraised
      | false =>
        have hsame := budgetSpent_down hflag deadline hraised
        rw [hbudget] at hsame
        exact visitsFrom_spent host plan deadline hsame

theorem Visit.rounds_eq_takeWhile (visit : Visit σ) :
    visit.rounds host plan deadline =
      (visit.rounds host.unstopped plan deadline).takeWhile
        fun r => !raised r.session.engine := by
  have hsetup : visit.setup? host.unstopped plan = visit.setup? host plan := rfl
  rw [rounds, rounds, hsetup]
  rcases visit.setup? host plan with _ | ⟨e | _, s⟩
  · rfl
  · rfl
  · exact roundsFrom_eq_takeWhile hflag plan deadline plan.rounds _ s

/-- If the flag is raised when the database is set up, it is not checked any more. -/
theorem Visit.checks_raised {visit : Visit σ} {s : Session σ}
    (hsetup : visit.setup? host plan = some (.ok (), s)) (h : raised s.engine = true) :
    visit.checks host plan deadline = 0 := by
  have hrounds : visit.rounds host plan deadline = [] := by
    rw [rounds, hsetup]
    exact roundsFrom_raised hflag plan deadline h
  rcases htaken : Link.onEngine host.checkout visit.link with ⟨cause | _, taken⟩
  · rw [checks, htaken]
  · rw [visit.checks_taken plan deadline htaken, verdicts, hrounds]
    rfl

end flag

/-! ## The campaign -/

/-- Nothing is started once the flag is raised, and what was started by then is carried through as
if nobody had asked. -/
structure StopsBetween (host : Host σ) (plan : Plan) (seed : UInt64) (link : Link σ)
    (raised : σ → Bool) : Prop where
  visited : visits host plan seed link =
    (visits host.unstopped plan seed link).takeWhile fun visit => !raised visit.link.engine
  setUp : ∀ visit ∈ visits host plan seed link,
    visit.setup? host plan = visit.setup? host.unstopped plan
  rounds : ∀ visit ∈ visits host plan seed link,
    visit.rounds host plan (dueAt host plan seed link) =
      (visit.rounds host.unstopped plan (dueAt host plan seed link)).takeWhile
        fun r => !raised r.session.engine
  unchecked : ∀ visit ∈ visits host plan seed link, ∀ s,
    visit.setup? host plan = some (.ok (), s) → raised s.engine = true →
      visit.checks host plan (dueAt host plan seed link) = 0

theorem stopsBetween (hflag : host.HasFlag raised) (plan : Plan) (seed : UInt64)
    (link : Link σ) : StopsBetween host plan seed link raised where
  visited := visitsFrom_eq_takeWhile hflag plan _ _ _ _ _ _
  setUp _ _ := rfl
  rounds visit _ := visit.rounds_eq_takeWhile hflag plan _
  unchecked _ _ _ hsetup h := Visit.checks_raised hflag plan _ hsetup h

/-- **A campaign stops between rounds.** A request to stop keeps it from starting anything, and
nothing else. A report counts every database that was visited, the interrupted one included, and
holds all checks made; there is one if nothing failed. Without a request and before the deadline,
all databases are visited and all rounds made. -/
theorem run_stops (hflag : host.HasFlag raised) (plan : Plan) (seed : UInt64) (link : Link σ) :
    StopsBetween host plan seed link raised ∧
      (∀ report, (run host plan seed link).1 = .ok report →
        Holds report ((visits host plan seed link).map
          (Visit.entry host plan (dueAt host plan seed link)))) ∧
      ((∀ visit ∈ visits host plan seed link,
          visit.IsSmooth host plan (dueAt host plan seed link)) →
        ∃ report, (run host plan seed link).1 = .ok report ∧ report.failures = []) ∧
      ∀ report, (∀ look ∈ looks host plan seed link, look = false) →
        (run host plan seed link).1 = .ok report → IsFull host plan seed link report := by
  refine ⟨stopsBetween hflag plan seed link, ?_, ?_, ?_⟩
  · intro report hreport
    exact visits_hold hreport
  · intro hsmooth
    exact run_smooth hsmooth
  · intro report hlooks hreport
    exact isFull_of_unspent hlooks hreport

/-- A host that counts the calls to it and is asked to stop after so many. Its engine is empty. -/
def countingHost (limit : Nat) : Host Nat where
  executor :=
    { execute := fun sql calls => ({ result := .error (.statement sql "read only") }, calls + 1)
      fetch := fun _ calls => ({ result := .ok [] }, calls + 1)
      columnNames := fun _ calls => ({ result := .ok [] }, calls + 1)
      isAlive := return true }
  checkout := fun calls => (.ok (), calls + 1)
  stopRequested := fun calls => (limit ≤ calls, calls)
  clock := return 0
  wallClock := return 0

theorem countingHost_hasFlag (limit : Nat) :
    (countingHost limit).HasFlag fun calls => limit ≤ calls := by
  have hcounted : ∀ calls : Nat, decide (limit ≤ calls) = true →
      decide (limit ≤ calls + 1) = true := by
    intro calls h
    exact decide_eq_true (Nat.le_succ_of_le (of_decide_eq_true h))
  exact
    { read := fun _ => rfl
      clock := fun _ => rfl
      wallClock := fun _ => id
      checkout := hcounted
      executor :=
        { execute := fun _ => hcounted
          fetch := fun _ => hcounted
          columnNames := fun _ => hcounted } }

/-- The request comes while the first of two databases is set up; the report counts it, and the
second is not visited. -/
theorem run_stops_counting :
    (countingHost 3).HasFlag (fun calls => 3 ≤ calls) ∧ moodyPlan.databases = 2 ∧
      (run (countingHost 3) moodyPlan 0 { engine := 0 }).1.toOption.map Report.databases =
        some 1 ∧
      StopsBetween (countingHost 3) moodyPlan 0 { engine := 0 } fun calls => 3 ≤ calls := by
  have hflag := countingHost_hasFlag 3
  exact ⟨hflag, rfl, by decide +kernel, (run_stops hflag moodyPlan 0 { engine := 0 }).1⟩

end Campaign

end RowParity
