import RowParity.Proofs.Campaign.Upkeep
import RowParity.Proofs.Check.Renaming

/-!
# The engine does not steer the checks

All that a check draws it draws before its first statement, and what it draws depends on the schema
and the random source alone. So the engine has no say in the queries: two checks that start from the
same schema and the same source begin with the same query and leave the same source behind, whatever
they are answered and whatever they come to, and so do any number of checks after them
(`run_unsteered`).
-/

namespace RowParity

variable {σ σ' : Type}

/-- The session still has the random source and the schema that it had. -/
structure Session.SameDraws (s s' : Session σ) : Prop where
  random_eq : s'.random = s.random
  schema_eq : s'.schema = s.schema

namespace Session.SameDraws

theorem refl (s : Session σ) : s.SameDraws s :=
  ⟨rfl, rfl⟩

theorem trans (s s₁ s' : Session σ) (h : s.SameDraws s₁) (h' : s₁.SameDraws s') : s.SameDraws s' :=
  ⟨h'.random_eq.trans h.random_eq, h'.schema_eq.trans h.schema_eq⟩

end Session.SameDraws

namespace Check

/-! ## One check -/

theorem compareForms_sameDraws (x : Executor σ) (base : String) :
    (compareForms x base).Keeps Session.SameDraws := by
  have hfetch (sql : String) : (Action.fetch x sql).result.Keeps Session.SameDraws :=
    (Action.sends_fetch x sql).keeps fun _ _ _ _ => ⟨rfl, rfl⟩
  exact compareForms_keeps .refl .trans hfetch (fun _ _ _ => ⟨rfl, rfl⟩) base

theorem settle_sameDraws (memory : Memory) (result : Except RunError Outcome) :
    Step.Keeps (@Session.SameDraws σ) (settle memory result) :=
  settle_keeps .refl .trans (fun _ _ _ => ⟨rfl, rfl⟩) (fun _ _ => ⟨rfl, rfl⟩) memory result

/-- A check leaves the source as drawing its query has left it, and the schema as it was. -/
theorem run_draws (x : Executor σ) (memory : Memory) (s : Session σ) :
    (run x memory s).2.random = (drawQuery s.schema s.random).2 ∧
      (run x memory s).2.schema = s.schema := by
  have hcompare : Session.SameDraws (Step.draw (drawQuery s.schema) (opened s)).2
      (drawAndCompare x memory (opened s)).2 := by
    rcases hdrawn : Step.draw (drawQuery (opened s).schema) (opened s) with ⟨e | base, s₁⟩
    · rw [drawAndCompare_undrawn hdrawn]
      change Step.draw (drawQuery s.schema) (opened s) = _ at hdrawn
      rw [hdrawn]
      exact .refl s₁
    · rw [drawAndCompare_drawn hdrawn]
      change Step.draw (drawQuery s.schema) (opened s) = _ at hdrawn
      rw [hdrawn]
      exact compareForms_sameDraws x base s₁
  obtain ⟨hrandom, hschema⟩ := hcompare.trans _ _ _
    (settle_sameDraws (drawAndCompare x memory (opened s)).1.2
      (drawAndCompare x memory (opened s)).1.1 _)
  rw [run_apply]
  exact ⟨hrandom, hschema⟩

/-- The first statement of a check is the query that it has drawn, if it has drawn one. -/
theorem head?_sent (x : Executor σ) (s : Session σ) :
    (sent x s).head? = (drawQuery s.schema s.random).1.toOption := by
  cases hdrawn : (drawQuery s.schema s.random).1 with
  | error e =>
    have hnothing : Step.draw (drawQuery (opened s).schema) (opened s) =
        (.error e, (Step.draw (drawQuery s.schema) (opened s)).2) := Prod.ext hdrawn rfl
    rw [sent_undrawn hnothing]
    rfl
  | ok base =>
    obtain ⟨others, hsent⟩ := (unfolded_run hdrawn none).sent_cons
    rw [hsent]
    rfl

/-! ## Checks one after the other -/

/-- The queries that the next checks start from, as their statements tell them; a check that finds
nothing to ask for sends none. -/
def baseQueries (x : Executor σ) : Nat → Memory → Session σ → List (Option String)
  | 0, _, _ => []
  | n + 1, memory, s =>
    (sent x s).head? :: baseQueries x n (run x memory s).1.2 (run x memory s).2

/-- The queries that are drawn from a source one after the other. -/
def drawQueries (schema : Schema) : Nat → Random.Source → List (Option String)
  | 0, _ => []
  | n + 1, source =>
    (drawQuery schema source).1.toOption :: drawQueries schema n (drawQuery schema source).2

theorem baseQueries_eq (x : Executor σ) (n : Nat) (memory : Memory) (s : Session σ) :
    baseQueries x n memory s = drawQueries s.schema n s.random := by
  induction n generalizing memory s with
  | zero => rfl
  | succ n ih =>
    obtain ⟨hrandom, hschema⟩ := run_draws x memory s
    rw [baseQueries, drawQueries, head?_sent, ih, hrandom, hschema]

/-- **The engine does not steer the checks.** Two checks with the same schema and the same random
source, by any two executors, start from the same query and leave the same schema and the same
source behind. So any number of checks, one after the other, start from the same queries. -/
theorem run_unsteered (x : Executor σ) (x' : Executor σ') {s : Session σ} {s' : Session σ'}
    (hschema : s'.schema = s.schema) (hrandom : s'.random = s.random) (memory memory' : Memory) :
    (run x' memory' s').2.random = (run x memory s).2.random ∧
      (run x' memory' s').2.schema = (run x memory s).2.schema ∧
      (sent x' s').head? = (sent x s).head? ∧
      ∀ n, baseQueries x' n memory' s' = baseQueries x n memory s := by
  obtain ⟨hleft, hkept⟩ := run_draws x memory s
  obtain ⟨hleft', hkept'⟩ := run_draws x' memory' s'
  refine ⟨?_, ?_, ?_, fun n => ?_⟩
  · rw [hleft', hleft, hschema, hrandom]
  · rw [hkept', hkept, hschema]
  · rw [head?_sent, head?_sent, hschema, hrandom]
  · rw [baseQueries_eq, baseQueries_eq, hschema, hrandom]

/-- An engine that answers every query with one row more than the one before. -/
def drifting : Executor Nat where
  execute _ := pure ⟨.ok (), []⟩
  fetch _ := fun n => (⟨.ok (List.replicate n []), []⟩, n + 1)
  columnNames _ := pure ⟨.ok [], []⟩
  isAlive := pure true

/-- The one check finds a mismatch and the other one fails at its first statement, and still both
start from the same query and go on with the same ones. -/
theorem run_unsteered_drifting :
    let table : Table := .plain "orders" [.declared "id" "INTEGER"]
    let s : Session Nat := { Session.start ⟨0, {}, #[]⟩ 1 with schema := ⟨[table]⟩ }
    sight (run drifting none s).1.1 = .mismatch 0 1 ∧
      sight (run failing none (sessionOn table)).1.1 = .failure .statement ∧
      (run drifting none s).2.random = (run failing none (sessionOn table)).2.random ∧
      ∀ n, baseQueries drifting n none s = baseQueries failing n none (sessionOn table) := by
  intro table s
  obtain ⟨hrandom, -, -, hqueries⟩ :=
    @run_unsteered Unit Nat failing drifting (sessionOn table) s rfl rfl none none
  exact ⟨by decide +kernel, by decide +kernel, hrandom, hqueries⟩

end Check

end RowParity
