import RowParity.Proofs.Check.Course

/-!
# The decision law of a check

Which result a check has is settled by its course alone: a mismatch if both forms were answered with
different numbers of rows, a pass if the numbers agree, an expected error if it stopped on an error
of the engine that stays connected and whose text holds a benign pattern, and an error in every
other case. `run_decided` says so of every check in every session, with what each result does to the
counts and, for a mismatch, what is found and reported.
-/

namespace RowParity.Check

variable {σ : Type} {x : Executor σ} {s s₁ : Session σ}

/-! ## Results of courses -/

theorem Answered.run_same {base : String} {baseRows rewrittenRows : List Row}
    (h : Answered x (opened s) base baseRows rewrittenRows s₁)
    (hlen : baseRows.length = rewrittenRows.length) (memory : Memory) :
    (run x memory s).1.1 = .ok (.pass baseRows.length) := by
  rw [run_apply, h.drawAndCompare_eq, judge_same hlen]
  rfl

theorem Answered.run_different {base : String} {baseRows rewrittenRows : List Row}
    (h : Answered x (opened s) base baseRows rewrittenRows s₁)
    (hlen : baseRows.length ≠ rewrittenRows.length) (memory : Memory) :
    ∃ (f : Finding) (s₂ s₃ : Session σ), f.baseQuery = base ∧
      f.rewrittenQuery = Sql.withTautology base ∧
      f.baseRows = baseRows.length ∧ f.rewrittenRows = rewrittenRows.length ∧
      Explained x base s₁ f.basePlan s₂ ∧
      Explained x (Sql.withTautology base) s₂ f.rewrittenPlan s₃ ∧
      (run x memory s).1.1 = .ok (.mismatch f) := by
  obtain ⟨f, s₂, s₃, hb, hr, hbn, hrn, hbase, hrewritten, hjudge⟩ := judge_different hlen s₁
  refine ⟨f, s₂, s₃, hb, hr, hbn, hrn, hbase, hrewritten, ?_⟩
  rw [run_apply, h.drawAndCompare_eq, hjudge]
  rfl

theorem Stopped.run_expected {e : RunError} {sql : Option String} {p : BenignPattern}
    (h : Stopped x (opened s) e sql s₁) (hwell : e.isDisconnect = false)
    (hp : BenignPattern.classify? e.decisiveText = some p) (memory : Memory) :
    (run x memory s).1.1 = .ok (.expectedError e.message p.pattern) := by
  rw [run_apply, h.drawAndCompare_eq, settle_expected hwell hp]

theorem Stopped.run_genuine {e : RunError} {sql : Option String}
    (h : Stopped x (opened s) e sql s₁)
    (he : e.isDisconnect = true ∨ BenignPattern.classify? e.decisiveText = none)
    (memory : Memory) : (run x memory s).1.1 = .error e := by
  rw [run_apply, h.drawAndCompare_eq, settle_genuine he]

/-! ## Conditions -/

/-- Both forms were answered, with different numbers of rows. -/
def Differs (x : Executor σ) (s : Session σ) : Prop :=
  ∃ base baseRows rewrittenRows s₁, Answered x s base baseRows rewrittenRows s₁ ∧
    baseRows.length ≠ rewrittenRows.length

/-- Both forms were answered, each with `n` rows. -/
def Agrees (x : Executor σ) (s : Session σ) (n : Nat) : Prop :=
  ∃ base baseRows rewrittenRows s₁, Answered x s base baseRows rewrittenRows s₁ ∧
    baseRows.length = n ∧ rewrittenRows.length = n

/-- The check stopped on an error that is no lost connection and whose decisive text holds a benign
pattern. -/
def IsExpected (x : Executor σ) (s : Session σ) (message pattern : String) : Prop :=
  ∃ e sql s₁ p, Stopped x s e sql s₁ ∧ e.isDisconnect = false ∧
    BenignPattern.classify? e.decisiveText = some p ∧ message = e.message ∧ pattern = p.pattern

/-- The check stopped on a lost connection, or on an error without a benign pattern. -/
def IsGenuine (x : Executor σ) (s : Session σ) (e : RunError) : Prop :=
  ∃ sql s₁, Stopped x s e sql s₁ ∧
    (e.isDisconnect = true ∨ BenignPattern.classify? e.decisiveText = none)

variable (memory : Memory)

/-- The four cases of a check, each with its result. -/
theorem run_cases (x : Executor σ) (memory : Memory) (s : Session σ) :
    (∃ f, Differs x (opened s) ∧ (run x memory s).1.1 = .ok (.mismatch f)) ∨
      (∃ n, Agrees x (opened s) n ∧ (run x memory s).1.1 = .ok (.pass n)) ∨
      (∃ message pattern, IsExpected x (opened s) message pattern ∧
        (run x memory s).1.1 = .ok (.expectedError message pattern)) ∨
      ∃ e, IsGenuine x (opened s) e ∧ (run x memory s).1.1 = .error e := by
  rcases answered_or_stopped x (opened s) with
    ⟨base, baseRows, rewrittenRows, s₁, hcourse⟩ | ⟨e, sql, s₁, hcourse⟩
  · by_cases hlen : baseRows.length = rewrittenRows.length
    · exact .inr (.inl ⟨_, ⟨base, baseRows, rewrittenRows, s₁, hcourse, rfl, hlen.symm⟩,
        hcourse.run_same hlen memory⟩)
    · obtain ⟨f, -, -, -, -, -, -, -, -, hrun⟩ := hcourse.run_different hlen memory
      exact .inl ⟨f, ⟨base, baseRows, rewrittenRows, s₁, hcourse, hlen⟩, hrun⟩
  · by_cases hlost : e.isDisconnect = true
    · exact .inr (.inr (.inr ⟨e, ⟨sql, s₁, hcourse, .inl hlost⟩,
        hcourse.run_genuine (.inl hlost) memory⟩))
    · have hwell : e.isDisconnect = false := by simpa using hlost
      cases hp : BenignPattern.classify? e.decisiveText with
      | some p =>
        exact .inr (.inr (.inl ⟨_, _, ⟨e, sql, s₁, p, hcourse, hwell, hp, rfl, rfl⟩,
          hcourse.run_expected hwell hp memory⟩))
      | none =>
        exact .inr (.inr (.inr ⟨e, ⟨sql, s₁, hcourse, .inr hp⟩,
          hcourse.run_genuine (.inr hp) memory⟩))

theorem run_error_genuine {e : RunError} (h : (run x memory s).1.1 = .error e) :
    IsGenuine x (opened s) e := by
  rcases run_cases x memory s with ⟨f, -, hrun⟩ | ⟨n, -, hrun⟩ | ⟨m, p, -, hrun⟩ | ⟨e', he, hrun⟩
  · simp [hrun] at h
  · simp [hrun] at h
  · simp [hrun] at h
  · rw [hrun] at h
    cases h
    exact he

end RowParity.Check
