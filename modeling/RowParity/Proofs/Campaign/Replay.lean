import RowParity.Proofs.Campaign.Conversation
import RowParity.Proofs.Campaign.Visits
import RowParity.Proofs.Check.Transcript

/-!
# Replaying a database

The seed of a database is settled by the seed of the campaign and by its place in it. What is done
on the database from then on is a dialogue that starts from that seed, so nothing of the databases
before it matters: two campaigns with the same seed do the same on their databases with the same
number, as long as they are answered alike there (`visits_replay`).
-/

namespace RowParity

/-- The seed that is drawn after `k` others. -/
def Random.nthSeed : Nat → Random.Source → UInt64
  | 0, source => (freshSeed source).1
  | k + 1, source => nthSeed k (freshSeed source).2

def Mind.fresh (seed : UInt64) : Mind :=
  ⟨.ofSeed seed, .empty, {}⟩

/-- Which query was sent last, the panel remembers by itself. -/
theorem Panel.lastQuery_eq {σ σ' : Type} (x : Executor σ) (x' : Executor σ') (panel : Panel) :
    (Panel.oracle x).lastQuery panel = (Panel.oracle x').lastQuery panel := by
  cases panel <;> rfl

namespace Campaign

/-- What the work on a database came to: the statements that were sent for it, and what it adds to
the report. -/
structure Contribution where
  sent : List Sent
  result : Except RunError Unit
  stats : Stats
  failure? : Option Failure

def Contribution.addTo (contribution : Contribution) (report : Report) : Report :=
  let counted := report.withStats contribution.stats
  match contribution.failure? with
  | none => counted
  | some failure => counted.addFailure failure

namespace Visit

variable {σ : Type} (host : Host σ) (plan : Plan) (deadline : Option Nat) (visit : Visit σ)
  (taken : Link σ)

/-- The entry under the failures. A lost connection has none. -/
def failure? : Option Failure :=
  let work := visit.work host plan deadline taken
  match work.1.1 with
  | .ok () => none
  | .error e =>
    if e.isDisconnect then none
    else some
      { database := visit.number, seed := visit.seed, error := e.message
        lastQuery := (Panel.oracle host.executor).lastQuery work.1.2 }

def contribution : Contribution :=
  let work := visit.work host plan deadline taken
  { sent := (Session.start taken visit.seed).sentSince work.2
    result := work.1.1
    stats := work.2.stats
    failure? := visit.failure? host plan deadline taken }

/-- What is asked during the work on a database, with the answers: the statements, the reading of
the clock and the looks at the budget. -/
def turns : List Turn :=
  let setting := Setting.recorded ⟨host, deadline⟩
  (workDatabase setting.host plan setting.deadline
    (Session.start (taken.recording []) visit.seed)).2.engine.2

/-- The report gains the contribution of the visit and nothing else. -/
theorem outcome_eq_addTo {report : Report} {left : Link σ}
    (h : visit.outcome host plan deadline = (.ok report, left)) :
    ∃ taken, Link.onEngine host.checkout visit.link = (.ok (), taken) ∧
      report = (visit.contribution host plan deadline taken).addTo visit.report := by
  rw [outcome, database_apply] at h
  rcases hcheckout : Link.onEngine host.checkout visit.link with ⟨cause | _, taken⟩ <;>
    rw [hcheckout] at h
  · cases h
  refine ⟨taken, rfl, ?_⟩
  unfold Contribution.addTo contribution failure? work
  rcases conclude_ok h with ⟨hresult, rfl⟩ | ⟨e, hresult, hwell, rfl⟩
  · dsimp only
    rw [hresult]
  · dsimp only
    rw [hresult]
    dsimp only
    rw [if_neg (by simp [hwell])]

variable {d : Mind → Dialogue ((Except RunError Unit × Panel) × Mind)}
  (hd : ∀ σ (setting : Setting σ) (s : Session σ),
    workDatabase setting.host plan setting.deadline s =
      ((setting.hold (d s.mind) s.toLink).1.1,
        (setting.hold (d s.mind) s.toLink).1.2.over (setting.hold (d s.mind) s.toLink).2))

include hd

theorem turns_eq :
    visit.turns host plan deadline taken =
      ((Setting.recorded ⟨host, deadline⟩).hold (d (.fresh visit.seed))
        (taken.recording [])).2.engine.2 := by
  have hwork := hd _ (Setting.recorded ⟨host, deadline⟩)
    (Session.start (taken.recording []) visit.seed)
  unfold turns
  dsimp only
  rw [hwork]
  rfl

/-- The work of a visit goes through its turns. -/
theorem work_path :
    Path (d (.fresh visit.seed)) (visit.turns host plan deadline taken)
      (visit.contribution host plan deadline taken).sent
      ((visit.work host plan deadline taken).1, (visit.work host plan deadline taken).2.mind) := by
  let setting : Setting σ := ⟨host, deadline⟩
  obtain ⟨turns, sent, hpath, hsent, hrecord⟩ :=
    setting.hold_recorded (d (.fresh visit.seed)) taken
  have hwork : visit.work host plan deadline taken = _ :=
    hd σ setting (Session.start taken visit.seed)
  have hturns : visit.turns host plan deadline taken = turns := by
    rw [visit.turns_eq host plan deadline taken hd, hrecord]
    exact List.nil_append turns
  have hcontribution : (visit.contribution host plan deadline taken).sent = sent := by
    refine Session.sentSince_eq ?_
    rw [hwork]
    exact hsent
  rw [hturns, hcontribution, hwork]
  exact hpath

end Visit

/-- The record holds every statement that was sent. -/
theorem Visit.map_sql_sent {σ : Type} (host : Host σ) (plan : Plan) (deadline : Option Nat)
    (visit : Visit σ) (taken : Link σ) :
    (visit.contribution host plan deadline taken).sent.map Sent.sql =
      (visit.turns host plan deadline taken).filterMap (·.request.sql?) := by
  obtain ⟨d, hd⟩ := workDatabase_isDialogue plan
  exact (visit.work_path host plan deadline taken hd).map_sql

/-- **The turns settle the contribution.** Two visits with the same number and the same seed
contribute the same if they are answered alike, whatever came before them. -/
theorem contribution_eq {σ σ' : Type} {host : Host σ} {host' : Host σ'} (plan : Plan)
    {deadline deadline' : Option Nat} {visit : Visit σ} {visit' : Visit σ'} {taken : Link σ}
    {taken' : Link σ'} (hnumber : visit.number = visit'.number) (hseed : visit.seed = visit'.seed)
    (halike : AnsweredAlike (visit.turns host plan deadline taken)
      (visit'.turns host' plan deadline' taken')) :
    visit.contribution host plan deadline taken =
      visit'.contribution host' plan deadline' taken' := by
  obtain ⟨d, hd⟩ := workDatabase_isDialogue plan
  have hpath := visit.work_path host plan deadline taken hd
  have hpath' := visit'.work_path host' plan deadline' taken' hd
  rw [hseed] at hpath
  obtain ⟨-, hsent, hvalue⟩ := hpath.eq_of_answeredAlike hpath' halike
  obtain ⟨hresult, hmind⟩ := Prod.ext_iff.1 hvalue
  have hstats : (visit.work host plan deadline taken).2.stats =
      (visit'.work host' plan deadline' taken').2.stats := congrArg Mind.stats hmind
  have hfailure : visit.failure? host plan deadline taken =
      visit'.failure? host' plan deadline' taken' := by
    unfold Visit.failure?
    dsimp only at hresult ⊢
    rw [hresult, hnumber, hseed]
    simp only [Panel.lastQuery_eq host.executor host'.executor]
  unfold Visit.contribution at hsent ⊢
  dsimp only at hsent hresult ⊢
  rw [hsent, hresult, hstats, hfailure]

/-! ## Seeds -/

theorem visitsFrom_nth {σ : Type} {host : Host σ} {plan : Plan} {deadline : Option Nat}
    {n number k : Nat} {seeds : Random.Source} {report : Report} {link : Link σ} {visit : Visit σ}
    (h : (visitsFrom host plan deadline n number seeds report link)[k]? = some visit) :
    visit.number = number + k ∧ visit.seed = Random.nthSeed k seeds := by
  induction n generalizing number k seeds report link with
  | zero => cases h
  | succ n ih =>
    rcases hbudget : budgetSpent host deadline link with ⟨_ | _, link₁⟩
    · rw [visitsFrom_left host plan deadline hbudget] at h
      cases k with
      | zero =>
        cases h
        exact ⟨rfl, rfl⟩
      | succ k =>
        rw [List.getElem?_cons_succ] at h
        split at h
        · cases h
        · obtain ⟨hnumber, hseed⟩ := ih h
          exact ⟨by omega, hseed⟩
    · rw [visitsFrom_spent host plan deadline hbudget] at h
      cases h

/-- The visit is the one with number `k` of a campaign: number and seed are settled by the seed of
the campaign, the report gains what the visit contributes, and its turns tell every statement. -/
structure Visit.IsNth {σ : Type} (host : Host σ) (plan : Plan) (seed : UInt64) (link : Link σ)
    (k : Nat) (visit : Visit σ) : Prop where
  number_eq : visit.number = k
  seed_eq : visit.seed = Random.nthSeed k (.ofSeed seed)
  gains : ∀ report left,
    visit.outcome host plan (dueAt host plan seed link) = (.ok report, left) →
      ∃ taken, Link.onEngine host.checkout visit.link = (.ok (), taken) ∧
        report = (visit.contribution host plan (dueAt host plan seed link) taken).addTo visit.report
  told : ∀ taken,
    (visit.contribution host plan (dueAt host plan seed link) taken).sent.map Sent.sql =
      (visit.turns host plan (dueAt host plan seed link) taken).filterMap (·.request.sql?)

theorem Visit.isNth_of_getElem? {σ : Type} {host : Host σ} {plan : Plan} {seed : UInt64}
    {link : Link σ} {k : Nat} {visit : Visit σ}
    (h : (visits host plan seed link)[k]? = some visit) : visit.IsNth host plan seed link k := by
  obtain ⟨hnumber, hseed⟩ := visitsFrom_nth h
  rw [Nat.zero_add] at hnumber
  exact ⟨hnumber, hseed, fun report left => visit.outcome_eq_addTo host plan _,
    fun taken => visit.map_sql_sent host plan _ taken⟩

/-- **A database can be replayed from its seed.** In two campaigns with the same seed and plan, over
any engines and with any course before it, a database with the same number has the same seed. The
same statements are sent for it and the same is entered in the report, if only what is asked equally
on it is answered equally. -/
theorem visits_replay {σ σ' : Type} {host : Host σ} {host' : Host σ'} {plan : Plan} {seed : UInt64}
    {link : Link σ} {link' : Link σ'} {k : Nat} {visit : Visit σ} {visit' : Visit σ'}
    (hvisit : (visits host plan seed link)[k]? = some visit)
    (hvisit' : (visits host' plan seed link')[k]? = some visit') :
    visit.IsNth host plan seed link k ∧ visit'.IsNth host' plan seed link' k ∧
      ∀ taken taken',
        AnsweredAlike (visit.turns host plan (dueAt host plan seed link) taken)
          (visit'.turns host' plan (dueAt host' plan seed link') taken') →
        visit.contribution host plan (dueAt host plan seed link) taken =
          visit'.contribution host' plan (dueAt host' plan seed link') taken' := by
  have hnth := Visit.isNth_of_getElem? hvisit
  have hnth' := Visit.isNth_of_getElem? hvisit'
  refine ⟨hnth, hnth', fun taken taken' halike => ?_⟩
  have hnumber : visit.number = visit'.number := hnth.number_eq.trans hnth'.number_eq.symm
  have hseed : visit.seed = visit'.seed := hnth.seed_eq.trans hnth'.seed_eq.symm
  exact contribution_eq plan hnumber hseed halike

/-! ## Engines that agree -/

/-- If the surroundings agree from the moment on at which the connection has been taken, then all is
answered alike. -/
theorem answeredAlike_of_agree {σ σ' : Type} {host : Host σ} {host' : Host σ'} (plan : Plan)
    {deadline deadline' : Option Nat} {visit : Visit σ} {visit' : Visit σ'} {taken : Link σ}
    {taken' : Link σ'} {Related : σ → σ' → Prop} (hseed : visit.seed = visit'.seed)
    (hagree : Setting.Agree ⟨host, deadline⟩ ⟨host', deadline'⟩ Related)
    (hrelated : Related taken.engine taken'.engine) :
    AnsweredAlike (visit.turns host plan deadline taken)
      (visit'.turns host' plan deadline' taken') := by
  obtain ⟨d, hd⟩ := workDatabase_isDialogue plan
  rw [visit.turns_eq host plan deadline taken hd, visit'.turns_eq host' plan deadline' taken' hd,
    hseed, hagree.recorded_eq (d (.fresh visit'.seed)) hrelated []]
  exact .refl _

/-- A host that counts the connections taken. Its engine is empty and rejects every statement with
an effect; if it is sullen, it answers one listing of tables only over the first connection. -/
def moodyHost (sullen : Bool) : Host Nat where
  executor :=
    { execute := fun sql => return { result := .error (.statement sql "read only") }
      fetch := fun sql taken =>
        let refuses := sullen && taken == 1 && sql != "SHOW TABLES"
        ({ result := if refuses then .error (.statement sql "not now") else .ok [] }, taken)
      columnNames := fun _ => return { result := .ok [] }
      isAlive := return true }
  checkout := fun taken => (.ok (), taken + 1)
  stopRequested := return false
  clock := return 0
  wallClock := return 0

/-- Two databases and one round. -/
def moodyPlan : Plan :=
  { databases := 2, rounds := 1, mutationProbability := ⟨0⟩ }

theorem moodyHost_agree :
    Setting.Agree ⟨moodyHost true, none⟩ ⟨moodyHost false, none⟩ fun taken taken' =>
      taken = 2 ∧ taken' = 2 := by
  rintro _ _ ⟨rfl, rfl⟩ request
  cases request <;> exact ⟨rfl, rfl, rfl⟩

/-- The mood over the first connection does not matter for the second database. -/
theorem visits_replay_moody : ∃ visit visit' taken taken',
    (visits (moodyHost true) moodyPlan 0 { engine := 0 })[1]? = some visit ∧
      (visits (moodyHost false) moodyPlan 0 { engine := 0 })[1]? = some visit' ∧
      visit.link.transcript.size = 6 ∧ visit'.link.transcript.size = 4 ∧
      Link.onEngine (moodyHost true).checkout visit.link = (.ok (), taken) ∧
      Link.onEngine (moodyHost false).checkout visit'.link = (.ok (), taken') ∧
      visit.contribution (moodyHost true) moodyPlan none taken =
        visit'.contribution (moodyHost false) moodyPlan none taken' := by
  have hvisit : (visits (moodyHost true) moodyPlan 0 { engine := 0 })[1]?.map
      (fun visit => (visit.link.engine, visit.link.transcript.size)) = some (1, 6) := by
    decide +kernel
  have hvisit' : (visits (moodyHost false) moodyPlan 0 { engine := 0 })[1]?.map
      (fun visit => (visit.link.engine, visit.link.transcript.size)) = some (1, 4) := by
    decide +kernel
  obtain ⟨visit, hget, hlink⟩ := Option.map_eq_some_iff.1 hvisit
  obtain ⟨visit', hget', hlink'⟩ := Option.map_eq_some_iff.1 hvisit'
  simp only [Prod.mk.injEq] at hlink hlink'
  obtain ⟨hengine, hsize⟩ := hlink
  obtain ⟨hengine', hsize'⟩ := hlink'
  have hseed : visit.seed = visit'.seed :=
    (Visit.isNth_of_getElem? hget).seed_eq.trans (Visit.isNth_of_getElem? hget').seed_eq.symm
  let taken : Link Nat := { visit.link with engine := visit.link.engine + 1 }
  let taken' : Link Nat := { visit'.link with engine := visit'.link.engine + 1 }
  have hrelated : taken.engine = 2 ∧ taken'.engine = 2 :=
    ⟨congrArg (· + 1) hengine, congrArg (· + 1) hengine'⟩
  have halike : AnsweredAlike (visit.turns (moodyHost true) moodyPlan none taken)
      (visit'.turns (moodyHost false) moodyPlan none taken') :=
    answeredAlike_of_agree moodyPlan hseed moodyHost_agree hrelated
  exact ⟨visit, visit', taken, taken', hget, hget', hsize, hsize', rfl, rfl,
    (visits_replay hget hget').2.2 taken taken' halike⟩

end Campaign

end RowParity
