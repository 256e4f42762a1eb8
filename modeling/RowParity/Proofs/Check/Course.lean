import RowParity.Check.Comparison
import RowParity.Proofs.Session.Frame

/-!
# The course of a check

A check either stops on an error, before or at one of its two queries, or has both of them answered.
`Stopped` and `Answered` say which statements were sent on the way and what came back; every check
takes exactly one of the two courses, and its result is read off the course.
-/

namespace RowParity

variable {σ : Type} {x : Executor σ}

/-- The counts after a check with the given result. -/
def Stats.after (stats : Stats) : Except RunError Outcome → Stats
  | .ok (.pass _) => { stats with checks := stats.checks + 1, passes := stats.passes + 1 }
  | .ok (.mismatch f) =>
    { stats with checks := stats.checks + 1, findings := stats.findings ++ [f] }
  | .ok (.expectedError ..) =>
    { stats with checks := stats.checks + 1, expectedErrors := stats.expectedErrors + 1 }
  | .error _ => { stats with checks := stats.checks + 1 }

theorem Stats.checks_after (stats : Stats) (result : Except RunError Outcome) :
    (stats.after result).checks = stats.checks + 1 := by
  rcases result with _ | _ | _ | _ <;> rfl

theorem Stats.findings_after (stats : Stats) (result : Except RunError Outcome) :
    stats.findings <+: (stats.after result).findings := by
  rcases result with _ | _ | f | _
  · exact List.prefix_rfl
  · exact List.prefix_rfl
  · exact List.prefix_append _ _
  · exact List.prefix_rfl

namespace Check

/-- The session in which a check has been counted and nothing else has happened. -/
def opened (s : Session σ) : Session σ :=
  { s with stats := { s.stats with checks := s.stats.checks + 1 } }

/-! ## Drawing -/

theorem queryOn_eq (table : Table) (source : Random.Source) :
    queryOn table source =
      match Generate.baseQuery table source with
      | (none, rest) =>
        (.error (.precondition ("table " ++ table.name ++ " has no columns")), rest)
      | (some sql, rest) => (.ok sql, rest) := by
  rw [queryOn, Draw.bind_apply]
  rcases Generate.baseQuery table source with ⟨_ | _, _⟩ <;> rfl

theorem drawQuery_eq (schema : Schema) (source : Random.Source) :
    drawQuery schema source =
      match schema.anyTable source with
      | (none, rest) => (.error (.precondition "no tables available in schema"), rest)
      | (some table, rest) => queryOn table rest := by
  rw [drawQuery, Draw.bind_apply]
  rcases schema.anyTable source with ⟨_ | _, _⟩ <;> rfl

/-! ## Queries -/

/-- What a query of a session comes to. It is reported and enters the transcript, its very text is
handed to the executor, once, and the rows or the error are those that the executor answers with.
Nothing but the link changes. -/
theorem fetch_cases (x : Executor σ) (sql : String) (s : Session σ) :
    ∃ link : Link σ, link.journal.events = s.journal.events ++ [.query sql] ∧
      link.transcript = s.transcript.push ⟨.session, sql⟩ ∧
      link.engine = (x.fetch sql s.engine).2 ∧
      ((∃ rows, (x.fetch sql s.engine).1.result = .ok rows ∧
          Action.fetch x sql s = .ok rows { s with toLink := link }) ∨
        ∃ e, (x.fetch sql s.engine).1.result = .error e ∧
          Action.fetch x sql s = .error (.engine e) { s with toLink := link }) := by
  have hanswer : (x.fetch sql s.engine).1.result = (Action.asked sql x.fetch s.toLink).1 := rfl
  refine ⟨(Action.asked sql x.fetch s.toLink).2, by simp [Action.asked, Link.ask_eq], rfl, rfl, ?_⟩
  rw [Action.fetch, Action.asked_apply, hanswer]
  cases (Action.asked sql x.fetch s.toLink).1 with
  | ok rows => exact .inl ⟨rows, rfl, rfl⟩
  | error e => exact .inr ⟨e, rfl, rfl⟩

/-! ## Courses -/

/-- A query was drawn, and it and its rewritten form were answered with rows. What a query hands to
the executor and reports is said by `fetch_cases`, here and for the courses below. -/
inductive Answered (x : Executor σ) (s : Session σ) (base : String) :
    List Row → List Row → Session σ → Prop
  | intro {s₁ s₂ s₃ : Session σ} {baseRows rewrittenRows : List Row}
      (drawn : Step.draw (drawQuery s.schema) s = (.ok base, s₁))
      (first : Action.fetch x base s₁ = .ok baseRows s₂)
      (second : Action.fetch x (Sql.withTautology base) s₂ = .ok rewrittenRows s₃) :
      Answered x s base baseRows rewrittenRows s₃

/-- No query could be drawn, or the query or its rewritten form was answered with an error. Beside
the error stands the statement it answers. -/
inductive Stopped (x : Executor σ) (s : Session σ) : RunError → Option String → Session σ → Prop
  | undrawn {e : RunError} {s₁ : Session σ}
      (drawn : Step.draw (drawQuery s.schema) s = (.error e, s₁)) : Stopped x s e none s₁
  | base {base : String} {e : RunError} {s₁ s₂ : Session σ}
      (drawn : Step.draw (drawQuery s.schema) s = (.ok base, s₁))
      (first : Action.fetch x base s₁ = .error e s₂) : Stopped x s e (some base) s₂
  | rewritten {base : String} {baseRows : List Row} {e : RunError} {s₁ s₂ s₃ : Session σ}
      (drawn : Step.draw (drawQuery s.schema) s = (.ok base, s₁))
      (first : Action.fetch x base s₁ = .ok baseRows s₂)
      (second : Action.fetch x (Sql.withTautology base) s₂ = .error e s₃) :
      Stopped x s e (some (Sql.withTautology base)) s₃

/-- The plan of a query and the session after it was asked for: the text of the answer, or nothing
after a rejection of any kind, which is reported. -/
inductive Explained (x : Executor σ) (sql : String) (s : Session σ) : String → Session σ → Prop
  | answered {rows : List Row} {s₁ : Session σ}
      (h : Action.fetch x ("EXPLAIN " ++ sql) s = .ok rows s₁) :
      Explained x sql s (planText rows) s₁
  | rejected {e : RunError} {s₁ : Session σ}
      (h : Action.fetch x ("EXPLAIN " ++ sql) s = .error e s₁) :
      Explained x sql s "" (Step.exception e (some ("EXPLAIN " ++ sql)) s₁).2

theorem answered_or_stopped (x : Executor σ) (s : Session σ) :
    (∃ base baseRows rewrittenRows s', Answered x s base baseRows rewrittenRows s') ∨
      ∃ e sql s', Stopped x s e sql s' := by
  rcases hdrawn : Step.draw (drawQuery s.schema) s with ⟨e | base, s₁⟩
  · exact .inr ⟨e, none, s₁, .undrawn hdrawn⟩
  cases hfirst : Action.fetch x base s₁ with
  | error e s₂ => exact .inr ⟨e, _, s₂, .base hdrawn hfirst⟩
  | ok baseRows s₂ =>
    cases hsecond : Action.fetch x (Sql.withTautology base) s₂ with
    | error e s₃ => exact .inr ⟨e, _, s₃, .rewritten hdrawn hfirst hsecond⟩
    | ok rewrittenRows s₃ =>
      exact .inl ⟨base, baseRows, rewrittenRows, s₃, .intro hdrawn hfirst hsecond⟩

theorem explained_plan (x : Executor σ) (sql : String) (s : Session σ) :
    Explained x sql s (plan x sql s).1 (plan x sql s).2 := by
  unfold plan
  rw [Step.bind_apply]
  cases hfetch : Action.fetch x ("EXPLAIN " ++ sql) s with
  | ok rows s₁ =>
    rw [Action.result_ok hfetch]
    exact .answered hfetch
  | error e s₁ =>
    rw [Action.result_error hfetch]
    exact .rejected hfetch

/-! ## What a course leads to -/

theorem drawAndCompare_undrawn {s s₁ : Session σ} {e : RunError}
    (hdrawn : Step.draw (drawQuery s.schema) s = (.error e, s₁)) (memory : Memory) :
    drawAndCompare x memory s = ((.error e, memory), s₁) := by
  rw [drawAndCompare, Step.bind_apply]
  show (Step.draw (drawQuery s.schema) >>= _) s = _
  rw [Step.bind_apply, hdrawn]
  rfl

theorem drawAndCompare_drawn {s s₁ : Session σ} {base : String}
    (hdrawn : Step.draw (drawQuery s.schema) s = (.ok base, s₁)) (memory : Memory) :
    drawAndCompare x memory s = compareForms x base s₁ := by
  rw [drawAndCompare, Step.bind_apply]
  show (Step.draw (drawQuery s.schema) >>= _) s = _
  rw [Step.bind_apply, hdrawn]

theorem compareForms_first {s₁ s₂ : Session σ} {base : String} {e : RunError}
    (hfirst : Action.fetch x base s₁ = .error e s₂) :
    compareForms x base s₁ = ((.error e, some base), s₂) := by
  rw [compareForms, Step.bind_apply, Action.result_error hfirst]
  rfl

theorem compareForms_second {s₁ s₂ : Session σ} {base : String} {baseRows : List Row}
    (hfirst : Action.fetch x base s₁ = .ok baseRows s₂) :
    compareForms x base s₁ =
      match (Action.fetch x (Sql.withTautology base)).result s₂ with
      | (.error e, s₃) => ((.error e, some (Sql.withTautology base)), s₃)
      | (.ok rewrittenRows, s₃) =>
        ((.ok (judge x base (Sql.withTautology base) baseRows rewrittenRows s₃).1,
            some (Sql.withTautology base)),
          (judge x base (Sql.withTautology base) baseRows rewrittenRows s₃).2) := by
  rw [compareForms, Step.bind_apply, Action.result_ok hfirst]
  dsimp only
  rw [Step.bind_apply]
  rcases (Action.fetch x (Sql.withTautology base)).result s₂ with ⟨_ | _, _⟩ <;> rfl

theorem Answered.drawAndCompare_eq {s s' : Session σ} {base : String}
    {baseRows rewrittenRows : List Row} (h : Answered x s base baseRows rewrittenRows s')
    (memory : Memory) :
    drawAndCompare x memory s =
      ((.ok (judge x base (Sql.withTautology base) baseRows rewrittenRows s').1,
          some (Sql.withTautology base)),
        (judge x base (Sql.withTautology base) baseRows rewrittenRows s').2) := by
  obtain ⟨hdrawn, hfirst, hsecond⟩ := h
  rw [drawAndCompare_drawn hdrawn, compareForms_second hfirst, Action.result_ok hsecond]

/-- A check that is stopped before its first statement keeps the memory it started with. -/
theorem Stopped.drawAndCompare_eq {s s' : Session σ} {e : RunError} {sql : Option String}
    (h : Stopped x s e sql s') (memory : Memory) :
    drawAndCompare x memory s = ((.error e, sql.or memory), s') := by
  cases h with
  | undrawn hdrawn => exact drawAndCompare_undrawn hdrawn memory
  | base hdrawn hfirst =>
    rw [drawAndCompare_drawn hdrawn, compareForms_first hfirst, Option.some_or]
  | rewritten hdrawn hfirst hsecond =>
    rw [drawAndCompare_drawn hdrawn, compareForms_second hfirst, Action.result_error hsecond,
      Option.some_or]

/-! ## Verdicts -/

theorem judge_same {base rewritten : String} {baseRows rewrittenRows : List Row}
    (h : baseRows.length = rewrittenRows.length) (s : Session σ) :
    judge x base rewritten baseRows rewrittenRows s = (.pass baseRows.length, s) := by
  rw [judge, if_pos (by simp [sameCount, h])]
  rfl

/-- Both plans are asked for after a mismatch, and it is a mismatch whatever comes of that. -/
theorem judge_different {base rewritten : String} {baseRows rewrittenRows : List Row}
    (h : baseRows.length ≠ rewrittenRows.length) (s : Session σ) :
    ∃ (f : Finding) (s₁ s₂ : Session σ), f.baseQuery = base ∧ f.rewrittenQuery = rewritten ∧
      f.baseRows = baseRows.length ∧ f.rewrittenRows = rewrittenRows.length ∧
      Explained x base s f.basePlan s₁ ∧ Explained x rewritten s₁ f.rewrittenPlan s₂ ∧
      judge x base rewritten baseRows rewrittenRows s = (.mismatch f, s₂) := by
  let s₁ := (plan x base s).2
  let f : Finding :=
    { baseQuery := base, rewrittenQuery := rewritten, baseRows := baseRows.length
      rewrittenRows := rewrittenRows.length, basePlan := (plan x base s).1
      rewrittenPlan := (plan x rewritten s₁).1 }
  have hjudge : judge x base rewritten baseRows rewrittenRows s =
      (.mismatch f, (plan x rewritten s₁).2) := by
    rw [judge, if_neg (by simp [sameCount, h])]
    rfl
  exact ⟨f, s₁, _, rfl, rfl, rfl, rfl, explained_plan x base s, explained_plan x rewritten s₁,
    hjudge⟩

theorem settle_expected {e : RunError} {p : BenignPattern} (hwell : e.isDisconnect = false)
    (hp : BenignPattern.classify? e.decisiveText = some p) (memory : Memory) (s : Session σ) :
    settle memory (.error e) s =
      (.ok (.expectedError e.message p.pattern),
        (record (.expectedError e.message p.pattern) s).2) := by
  have h : expected? e = some (.expectedError e.message p.pattern) := by
    simp [expected?, hwell, hp]
  simp only [settle, h]
  rfl

theorem settle_genuine {e : RunError}
    (h : e.isDisconnect = true ∨ BenignPattern.classify? e.decisiveText = none) (memory : Memory)
    (s : Session σ) :
    settle memory (.error e) s =
      (.error e, if e.isDisconnect then s else (Step.exception e memory s).2) := by
  have hnone : expected? e = none := by
    rcases h with h | h <;> simp [expected?, h]
  simp only [settle, hnone]
  cases e.isDisconnect <;> rfl

/-! ## Counts and frames -/

theorem record_stats {s s₁ : Session σ} (h : s₁.stats = (opened s).stats) (outcome : Outcome) :
    (record outcome s₁).2.stats = s.stats.after (.ok outcome) := by
  cases outcome with
  | pass rows =>
    show { s₁.stats with passes := s₁.stats.passes + 1 } = _
    rw [h]
    rfl
  | mismatch f =>
    show { s₁.stats with findings := s₁.stats.findings ++ [f] } = _
    rw [h]
    rfl
  | expectedError message pattern =>
    show { s₁.stats with expectedErrors := s₁.stats.expectedErrors + 1 } = _
    rw [h]
    rfl

theorem settle_stats {s s₁ : Session σ} (h : s₁.stats = (opened s).stats) (memory : Memory)
    (result : Except RunError Outcome) :
    (settle memory result s₁).2.stats = s.stats.after (settle memory result s₁).1 := by
  cases result with
  | ok outcome => exact record_stats h outcome
  | error e =>
    by_cases hwell : e.isDisconnect = false
    · cases hp : BenignPattern.classify? e.decisiveText with
      | some p =>
        rw [settle_expected hwell hp]
        exact record_stats h _
      | none =>
        rw [settle_genuine (.inr hp), hwell]
        exact h
    · rw [settle_genuine (.inl (by simpa using hwell)), if_pos (by simpa using hwell)]
      exact h

/-! ## What a comparison keeps -/

section walks

variable {R : Session σ → Session σ → Prop} (hrefl : ∀ s, R s s)
  (htrans : ∀ a b c, R a b → R b c → R a c) (hfetch : ∀ sql, (Action.fetch x sql).result.Keeps R)
  (hreport : ∀ event : Event, event.query? = none → Step.Keeps R (Step.report event))

include hrefl htrans hfetch hreport

theorem plan_keeps (sql : String) : (plan x sql).Keeps R := by
  unfold plan
  refine .bind htrans (hfetch _) fun answer => ?_
  cases answer with
  | ok rows => exact .pure hrefl _
  | error e => exact .bind htrans (hreport _ rfl) fun _ => .pure hrefl _

theorem judge_keeps (base rewritten : String) (baseRows rewrittenRows : List Row) :
    (judge x base rewritten baseRows rewrittenRows).Keeps R := by
  have hplan := plan_keeps hrefl htrans hfetch hreport
  unfold judge
  split
  · exact .pure hrefl _
  · exact .bind htrans (hplan base) fun _ => .bind htrans (hplan rewritten) fun _ => .pure hrefl _

/-- A comparison keeps what queries and reports keep. -/
theorem compareForms_keeps (base : String) : (compareForms x base).Keeps R := by
  unfold compareForms
  refine .bind htrans (hfetch base) fun answer => ?_
  cases answer with
  | error e => exact .pure hrefl _
  | ok baseRows =>
    refine .bind htrans (hfetch _) fun answer => ?_
    cases answer with
    | error e => exact .pure hrefl _
    | ok rewrittenRows =>
      exact .bind htrans (judge_keeps hrefl htrans hfetch hreport _ _ _ _) fun _ => .pure hrefl _

end walks

end Check

namespace Frame

variable {R : Session σ → Session σ → Prop} (frame : Frame x R)

include frame

/-- Up to its verdict a check keeps every frame. -/
theorem drawAndCompare (memory : Check.Memory) : (Check.drawAndCompare x memory).Keeps R := by
  unfold Check.drawAndCompare
  refine .bind frame.trans (fun s => frame.refl s) fun schema =>
    .bind frame.trans (frame.draw _) fun drawn => ?_
  cases drawn with
  | error e => exact .pure frame.refl _
  | ok base =>
    exact Check.compareForms_keeps frame.refl frame.trans frame.fetch frame.report base

end Frame

namespace Check

theorem run_apply (memory : Memory) (s : Session σ) :
    run x memory s =
      (((settle (drawAndCompare x memory (opened s)).1.2 (drawAndCompare x memory (opened s)).1.1
            (drawAndCompare x memory (opened s)).2).1,
          (drawAndCompare x memory (opened s)).1.2),
        (settle (drawAndCompare x memory (opened s)).1.2 (drawAndCompare x memory (opened s)).1.1
          (drawAndCompare x memory (opened s)).2).2) :=
  rfl

/-- The counts after a check depend on its result alone. -/
theorem run_stats (x : Executor σ) (memory : Memory) (s : Session σ) :
    (run x memory s).2.stats = s.stats.after (run x memory s).1.1 := by
  rw [run_apply]
  exact settle_stats ((Session.sameStats_frame x).drawAndCompare memory (opened s)) _ _

end Check

end RowParity
