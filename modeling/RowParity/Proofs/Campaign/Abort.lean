import RowParity.Proofs.Campaign.Visits
import RowParity.Proofs.Workload.Absorption

/-!
# Lost connections

Nothing but a lost connection aborts a campaign, and it aborts it at once. The error that work ends
in comes from a fatal deed, and the session is left as it was at that moment (`LeftAt`); so it is
for a workload, for a check and for all the work on a database. A campaign hands such an error on
without sending anything more.
-/

namespace RowParity

variable {σ α β : Type} {x : Executor σ}

/-- The session is as a fatal deed has left it, with this error. -/
def LeftAt (x : Executor σ) (e : RunError) (s' : Session σ) : Prop :=
  ∃ s deed, Fatal x s deed e s'

theorem Course.leftAt {s s' : Session σ} {deeds : List Deed} {e : RunError}
    (h : Course x s deeds (some e) s') : LeftAt x e s' := by
  generalize hend : some e = end? at h
  cases Concluded.of_course h with
  | passed => cases hend
  | broken _ _ fatal =>
    cases hend
    exact ⟨_, _, fatal⟩

namespace Action

/-- Whenever the action fails, it does so by a fatal deed and does nothing afterwards. -/
def FailsAtOnce (x : Executor σ) (action : Action σ α) : Prop :=
  ∀ s e s', action.result s = (.error e, s') → LeftAt x e s'

namespace FailsAtOnce

theorem ofStep (step : Step σ α) : FailsAtOnce x step.toAction := by
  intro s e s' h
  cases h

theorem bind {action : Action σ α} {next : α → Action σ β} (h : action.FailsAtOnce x)
    (hnext : ∀ a, (next a).FailsAtOnce x) : (action >>= next).FailsAtOnce x := by
  intro s e s' hrun
  rw [result_bind] at hrun
  rcases hfirst : action.result s with ⟨e₁ | a, s₁⟩ <;> rw [hfirst] at hrun
  · cases hrun
    exact h s e s' hfirst
  · exact hnext a s₁ e s' hrun

theorem of_coursed {Kind : Deed → Prop} {action : Action σ α} (h : action.Coursed x Kind) :
    action.FailsAtOnce x := by
  intro s e s' hrun
  obtain ⟨deeds, -, hcourse⟩ := h s
  rw [hrun] at hcourse
  exact hcourse.leftAt

end FailsAtOnce

end Action

/-! ## Checks -/

/-- Whenever the step comes to a lost connection, it does so by a fatal deed and does nothing
afterwards. -/
def Step.LosesAtOnce (x : Executor σ) (step : Step σ (Except RunError Unit × β)) : Prop :=
  ∀ s e b s', step s = ((.error e, b), s') → e.isDisconnect = true → LeftAt x e s'

theorem LeftAt.of_fetch {sql : String} {s s' : Session σ} {e : RunError}
    (h : Action.fetch x sql s = .error e s') (hlost : e.isDisconnect = true) : LeftAt x e s' := by
  obtain ⟨link, -, -, ⟨rows, hrun⟩ | ⟨cause, hrun⟩⟩ := Action.sends_fetch x sql s
  all_goals rw [hrun] at h
  · cases h
  cases h
  cases cause with
  | connection message => exact ⟨s, _, .lost (.unfetched hrun)⟩
  | statement => cases hlost

namespace Check

theorem queryOn_error {table : Table} {source source' : Random.Source} {e : RunError}
    (h : queryOn table source = (.error e, source')) : e.isDisconnect = false := by
  rw [queryOn_eq] at h
  rcases hbase : Generate.baseQuery table source with ⟨_ | sql, rest⟩ <;> rw [hbase] at h
  · cases h
    rfl
  · cases h

theorem drawQuery_error {schema : Schema} {source source' : Random.Source} {e : RunError}
    (h : drawQuery schema source = (.error e, source')) : e.isDisconnect = false := by
  rw [drawQuery_eq] at h
  rcases htable : schema.anyTable source with ⟨_ | table, rest⟩ <;> rw [htable] at h
  · cases h
    rfl
  · exact queryOn_error h

theorem Stopped.leftAt {s s' : Session σ} {e : RunError} {sql : Option String}
    (h : Stopped x s e sql s') (hlost : e.isDisconnect = true) : LeftAt x e s' := by
  cases h with
  | undrawn drawn =>
    rcases hdraw : drawQuery s.schema s.random with ⟨e₁ | base, rest⟩ <;>
      rw [Step.draw, hdraw] at drawn <;> cases drawn
    rw [drawQuery_error hdraw] at hlost
    cases hlost
  | base _ first => exact .of_fetch first hlost
  | rewritten _ _ second => exact .of_fetch second hlost

theorem run_leftAt {memory memory' : Memory} {s s' : Session σ} {e : RunError}
    (h : run x memory s = ((.error e, memory'), s')) (hlost : e.isDisconnect = true) :
    LeftAt x e s' := by
  rw [run_apply] at h
  rcases answered_or_stopped x (opened s) with
    ⟨base, baseRows, rewrittenRows, s₁, hcourse⟩ | ⟨e₁, sql, s₁, hcourse⟩
  · rw [hcourse.drawAndCompare_eq] at h
    cases h
  rw [hcourse.drawAndCompare_eq] at h
  dsimp only at h
  by_cases hgenuine : e₁.isDisconnect = true ∨ BenignPattern.classify? e₁.decisiveText = none
  · rw [settle_genuine hgenuine] at h
    cases h
    -- A lost connection is not even reported.
    rw [if_pos hlost]
    exact hcourse.leftAt hlost
  · obtain ⟨hwell, hbenign⟩ := not_or.1 hgenuine
    obtain ⟨p, hp⟩ := Option.ne_none_iff_exists'.1 hbenign
    rw [settle_expected (by simpa using hwell) hp] at h
    cases h

end Check

theorem Suite.runMembers_leftAt {members : List Check.Memory} {s s' : Session σ} {e : RunError}
    {after : List Check.Memory × Nat}
    (h : runMembers (Check.oracle x) members s = ((.error e, after), s'))
    (hlost : e.isDisconnect = true) : LeftAt x e s' := by
  induction members generalizing s after with
  | nil => cases h
  | cons memory members ih =>
    rw [runMembers_cons] at h
    rcases hrun : Check.run x memory s with ⟨⟨e₁ | outcome, memory'⟩, s₁⟩ <;> rw [hrun] at h
    · cases h
      exact Check.run_leftAt hrun hlost
    · dsimp only at h
      rcases hothers : runMembers (Check.oracle x) members s₁ with ⟨⟨result, others⟩, s₂⟩
      rw [hothers] at h
      cases h
      exact ih hothers

theorem Panel.losesAtOnce (x : Executor σ) (panel : Panel) :
    Step.LosesAtOnce x ((Panel.oracle x).check panel) := by
  intro s e panel' s' h hlost
  cases panel with
  | alone memory =>
    rcases hrun : Check.run x memory s with ⟨⟨e₁ | outcome, memory'⟩, s₁⟩
    all_goals
      have hcheck : (Panel.oracle x).check (.alone memory) s =
          (((Check.run x memory s).1.1.map fun _ => (), .alone (Check.run x memory s).1.2),
            (Check.run x memory s).2) := rfl
      rw [hcheck, hrun] at h
      cases h
    exact Check.run_leftAt hrun hlost
  | suite suite =>
    rcases hrun : Suite.runMembers (Check.oracle x) suite.members s with ⟨⟨result, after⟩, s₁⟩
    have hcheck : ((Panel.oracle x).check (.suite suite) s).1.1 =
        (Suite.runMembers (Check.oracle x) suite.members s).1.1 := rfl
    have hafter : ((Panel.oracle x).check (.suite suite) s).2 =
        (Suite.runMembers (Check.oracle x) suite.members s).2 := rfl
    rw [h, hrun] at hcheck hafter
    cases hcheck
    cases hafter
    exact Suite.runMembers_leftAt hrun hlost

/-! ## The work on a database -/

namespace Campaign

variable (host : Host σ) (plan : Plan) (deadline : Option Nat)

theorem prepare_failsAtOnce : (prepare host plan).FailsAtOnce host.executor := by
  have hrenew : (Action.renewSchema host.executor).Coursed host.executor fun _ => True :=
    Action.renewSchema_coursed host.executor fun _ => trivial
  have hfill := Action.fillDatabase_coursed host.executor
  have htopUp := Action.topUp_coursed host.executor
  unfold prepare
  refine .bind (.of_coursed hrenew) fun _ => .bind (.ofStep _) fun millis =>
    .bind (.of_coursed (hfill millis)) fun _ => ?_
  split
  · exact .bind (.of_coursed htopUp) fun _ => .ofStep (Pure.pure ())
  · exact .ofStep (Pure.pure ())

theorem maybeMutate_failsAtOnce : (maybeMutate host plan).FailsAtOnce host.executor := by
  have hupdate := Action.updateRows_coursed host.executor
  unfold maybeMutate
  refine .bind (.ofStep _) fun mutates => ?_
  cases mutates with
  | true => exact .bind (.of_coursed hupdate) fun _ => .ofStep (Pure.pure ())
  | false => exact .ofStep (Pure.pure ())

theorem round_losesAtOnce (panel : Panel) :
    (round host plan panel).LosesAtOnce host.executor := by
  intro s e panel' s' h hlost
  rw [round_apply] at h
  rcases hmutate : (maybeMutate host plan).result s with ⟨e₁ | _, s₁⟩ <;> rw [hmutate] at h
  · cases h
    exact maybeMutate_failsAtOnce host plan s e s' hmutate
  · exact Panel.losesAtOnce host.executor panel s₁ e panel' s' h hlost

theorem rounds_losesAtOnce (n : Nat) (panel : Panel) :
    (rounds host plan deadline n panel).LosesAtOnce host.executor := by
  induction n generalizing panel with
  | zero =>
    intro s e panel' s' h
    cases h
  | succ n ih =>
    intro s e panel' s' h hlost
    rw [rounds_succ] at h
    rcases hbudget : Step.onLink (budgetSpent host deadline) s with ⟨_ | _, s₁⟩ <;>
      rw [hbudget] at h
    · dsimp only at h
      rcases hround : round host plan panel s₁ with ⟨⟨e₁ | _, panel₁⟩, s₂⟩ <;> rw [hround] at h
      · cases h
        exact round_losesAtOnce host plan panel s₁ e panel' s' hround hlost
      · exact ih panel₁ s₂ e panel' s' h hlost
    · cases h

theorem workDatabase_losesAtOnce :
    (workDatabase host plan deadline).LosesAtOnce host.executor := by
  intro s e panel s' h hlost
  rw [workDatabase_apply] at h
  rcases hprepare : (prepare host plan).result s with ⟨e₁ | _, s₁⟩ <;> rw [hprepare] at h
  · cases h
    exact prepare_failsAtOnce host plan s e s' hprepare
  · exact rounds_losesAtOnce host plan deadline plan.rounds _ s₁ e panel s' h hlost

/-! ## Visits that end a campaign -/

/-- The visit ends the campaign in the error: no connection came free, or the work on the database
ended in a lost connection. The link is as it was left then. -/
inductive Visit.Aborts (visit : Visit σ) : RunError → Link σ → Prop
  | unconnected {cause : Option String} {link : Link σ}
      (refused : Link.onEngine host.checkout visit.link = (.error cause, link)) :
      Aborts visit (.pool cause) link
  | lost {taken : Link σ} {e : RunError} {panel : Panel} {s' : Session σ}
      (granted : Link.onEngine host.checkout visit.link = (.ok (), taken))
      (worked : visit.work host plan deadline taken = ((.error e, panel), s'))
      (loss : e.isDisconnect = true) : Aborts visit e s'.toLink

/-- The work of a visit ends as the campaign does; only a notice is added to the journal. -/
theorem Visit.Aborts.outcome_eq {visit : Visit σ} {e : RunError} {link : Link σ}
    (h : visit.Aborts host plan deadline e link) :
    ∃ journal, visit.outcome host plan deadline = (.error e, { link with journal }) := by
  rw [Visit.outcome, database_apply]
  cases h with
  | unconnected refused =>
    rw [refused]
    exact ⟨link.journal, rfl⟩
  | lost granted worked loss =>
    unfold Visit.work at worked
    rw [granted]
    dsimp only
    rw [worked]
    dsimp only
    rw [conclude, if_pos loss]
    exact ⟨_, rfl⟩

theorem Visit.aborts_of_outcome {visit : Visit σ} {e : RunError} {link : Link σ}
    (h : visit.outcome host plan deadline = (.error e, link)) :
    ∃ link₁, visit.Aborts host plan deadline e link₁ := by
  have houtcome := h
  rw [Visit.outcome, database_apply] at h
  rcases hcheckout : Link.onEngine host.checkout visit.link with ⟨cause | _, taken⟩ <;>
    rw [hcheckout] at h
  · cases h
    exact ⟨link, .unconnected hcheckout⟩
  dsimp only at h
  rcases hwork : visit.work host plan deadline taken with ⟨⟨e₁ | _, panel⟩, s'⟩ <;>
    unfold Visit.work at hwork <;> rw [hwork] at h
  · cases hlost : e₁.isDisconnect with
    | true =>
      have haborts : visit.Aborts host plan deadline e₁ s'.toLink :=
        .lost hcheckout (by unfold Visit.work; exact hwork) hlost
      obtain ⟨journal, hsame⟩ := haborts.outcome_eq
      rw [houtcome] at hsame
      cases hsame
      exact ⟨_, haborts⟩
    | false =>
      dsimp only at h
      rw [conclude, if_neg (by simp [hlost])] at h
      cases h
  · cases h

theorem Visit.Aborts.isDisconnect {visit : Visit σ} {e : RunError} {link : Link σ}
    (h : visit.Aborts host plan deadline e link) : e.isDisconnect = true := by
  cases h with
  | unconnected => rfl
  | lost _ _ loss => exact loss

/-- A visit that leads to a report does not abort. -/
theorem Visit.not_aborts_of_reported {visit : Visit σ} {report : Report} {link₁ : Link σ}
    (h : visit.outcome host plan deadline = (.ok report, link₁)) (e : RunError) (link : Link σ) :
    ¬visit.Aborts host plan deadline e link := by
  intro haborts
  obtain ⟨journal, hsame⟩ := haborts.outcome_eq
  rw [h] at hsame
  cases hsame

/-! ## What aborts a campaign -/

/-- A campaign fails if and only if a visit aborts it, which is then the last one; it ends with the
error of that visit, and nothing is sent and the engine is left alone from there on. -/
structure AbortsByLoss (host : Host σ) (plan : Plan) (seed : UInt64) (link : Link σ) : Prop where
  failed_iff : (∃ e, (run host plan seed link).1 = .error e) ↔
    ∃ visit ∈ visits host plan seed link, ∃ e left,
      visit.Aborts host plan (dueAt host plan seed link) e left
  failed : ∀ e, (run host plan seed link).1 = .error e → e.isDisconnect = true ∧
    ∃ earlier last left, visits host plan seed link = earlier ++ [last] ∧
      (∀ visit ∈ earlier, ∀ e left,
        ¬visit.Aborts host plan (dueAt host plan seed link) e left) ∧
      last.Aborts host plan (dueAt host plan seed link) e left ∧
      (run host plan seed link).2.transcript = left.transcript ∧
      (run host plan seed link).2.engine = left.engine
  /-- Work that ends in a lost connection has done nothing since the deed that met it. -/
  leftAt : ∀ (visit : Visit σ) (taken : Link σ) (e : RunError) (panel : Panel) (s' : Session σ),
    visit.work host plan (dueAt host plan seed link) taken = ((.error e, panel), s') →
      e.isDisconnect = true → LeftAt host.executor e s'

theorem run_abortsByLoss (host : Host σ) (plan : Plan) (seed : UInt64) (link : Link σ) :
    AbortsByLoss host plan seed link := by
  have hreported {visit : Visit σ}
      (h : ∃ report link', visit.outcome host plan (dueAt host plan seed link) =
        (.ok report, link')) (e : RunError) (left : Link σ) :
      ¬visit.Aborts host plan (dueAt host plan seed link) e left := by
    obtain ⟨report, link', hvisit⟩ := h
    exact Visit.not_aborts_of_reported host plan _ hvisit e left
  have hleft (visit : Visit σ) (taken : Link σ) :=
    workDatabase_losesAtOnce host plan (dueAt host plan seed link)
      (Session.start taken visit.seed)
  have hcloses := run_closes host plan seed link
  generalize hvisits : visits host plan seed link = all at hcloses
  cases hcloses with
  | @reported _ report ok all =>
    refine ⟨?_, fun e he => ?_, hleft⟩
    · constructor
      · rintro ⟨e, he⟩
        rw [ok] at he
        cases he
      · rintro ⟨visit, hvisit, e, left, haborts⟩
        rw [hvisits] at hvisit
        exact absurd haborts (hreported (all visit hvisit) e left)
    · rw [ok] at he
      cases he
  | @aborted earlier last e link' all error same =>
    obtain ⟨left, haborts⟩ := Visit.aborts_of_outcome host plan _ error
    obtain ⟨journal, hsame⟩ := haborts.outcome_eq
    rw [error] at hsame
    refine ⟨⟨fun _ => ?_, fun _ => ⟨e, by rw [same]⟩⟩, fun e₁ he₁ => ?_, hleft⟩
    · rw [hvisits]
      exact ⟨last, List.mem_concat_self, e, left, haborts⟩
    · rw [same] at he₁ ⊢
      cases he₁
      cases hsame
      exact ⟨haborts.isDisconnect, earlier, last, left, hvisits,
        fun visit hvisit => hreported (all visit hvisit), haborts, rfl, rfl⟩

/-- **Nothing but a lost connection aborts, and it aborts at once.** A call of the workload fails if
and only if one of its statements met a lost connection or, where the schema is read anew, both
attempts failed; it ends there with an error that says so, and every statement that was merely
rejected is reported once and passed over. A campaign fails if and only if no connection came free
or the work on some database ended in a lost connection, and it ends there as well. -/
theorem aborts_only_by_loss :
    (∀ x : Executor σ,
      (∀ millis, (Action.fillDatabase x millis).Absorbs x fun _ => True) ∧
        (∀ table, (Action.addRow x table).Absorbs x Deed.IsStatement) ∧
        (Action.topUp x).Absorbs x Deed.IsStatement ∧
        (Action.updateRows x).Absorbs x Deed.IsStatement) ∧
      ∀ (host : Host σ) (plan : Plan) (seed : UInt64) (link : Link σ),
        AbortsByLoss host plan seed link := by
  refine ⟨fun x => ⟨fun millis => ?_, fun table => ?_, ?_, ?_⟩, run_abortsByLoss⟩
  · exact (Action.fillDatabase_coursed x millis).absorbs
  · exact (Action.addRow_coursed x table).absorbs
  · exact (Action.topUp_coursed x).absorbs
  · exact (Action.updateRows_coursed x).absorbs

end Campaign

end RowParity
