import RowParity.Proofs.Check.Course

/-!
# The statements of a check

A check sends at most two queries, the drawn one and its rewritten form, and after a mismatch it
also asks for their plans. `Check.sent` are the statements of a check in order. The course settles
them: a check that stops has sent the queries up to the one that it stopped on
(`Stopped.sent_getLast?`).
-/

namespace RowParity

variable {σ α : Type} {x : Executor σ}

/-- The statements that were sent between two moments of a session. -/
def Session.sentSince (s s' : Session σ) : List Sent :=
  s'.transcript.toList.drop s.transcript.size

theorem Session.sentSince_eq {s s' : Session σ} {sent : List Sent}
    (h : s'.transcript.toList = s.transcript.toList ++ sent) : s.sentSince s' = sent := by
  rw [sentSince, h, ← Array.length_toList, List.drop_left]

namespace Action

/-- Whether it is answered or not, a statement enters the transcript. -/
theorem Sends.transcript {action : Action σ α} {sql : String} (h : Sends sql action)
    (s : Session σ) :
    (action.result s).2.transcript.toList = s.transcript.toList ++ [⟨.session, sql⟩] := by
  let Pushed (s s' : Session σ) : Prop :=
    s'.transcript.toList = s.transcript.toList ++ [⟨.session, sql⟩]
  have hkeeps : action.result.Keeps Pushed := h.keeps fun s link _ hsent => by
    show link.transcript.toList = _
    rw [hsent, Array.toList_push]
  exact hkeeps s

theorem Sends.transcript_ok {action : Action σ α} {sql : String} (h : Sends sql action)
    {s s' : Session σ} {a : α} (hrun : action s = .ok a s') :
    s'.transcript.toList = s.transcript.toList ++ [⟨.session, sql⟩] := by
  have hsent := h.transcript s
  rwa [result_ok hrun] at hsent

theorem Sends.transcript_error {action : Action σ α} {sql : String} (h : Sends sql action)
    {s s' : Session σ} {e : RunError} (hrun : action s = .error e s') :
    s'.transcript.toList = s.transcript.toList ++ [⟨.session, sql⟩] := by
  have hsent := h.transcript s
  rwa [result_error hrun] at hsent

end Action

namespace Check

/-- The statements that a check sends. -/
def sent (x : Executor σ) (s : Session σ) : List String :=
  (s.sentSince (run x none s).2).map Sent.sql

/-- The queries that a check compares, without the requests for plans. -/
def queries (x : Executor σ) (s : Session σ) : List String :=
  (sent x s).take 2

/-! ## Statements of courses -/

theorem drawn_transcript {s s₁ : Session σ} {drawn : Except RunError String}
    (h : Step.draw (drawQuery s.schema) s = (drawn, s₁)) : s₁.transcript = s.transcript := by
  cases h
  rfl

theorem Answered.transcript {s s' : Session σ} {base : String} {baseRows rewrittenRows : List Row}
    (h : Answered x s base baseRows rewrittenRows s') :
    s'.transcript.toList = s.transcript.toList ++
      [base, Sql.withTautology base].map (Sent.mk .session) := by
  obtain ⟨drawn, first, second⟩ := h
  rw [(Action.sends_fetch x _).transcript_ok second,
    (Action.sends_fetch x base).transcript_ok first, drawn_transcript drawn, List.append_assoc]
  rfl

theorem Explained.transcript {s s' : Session σ} {sql plan : String}
    (h : Explained x sql s plan s') :
    s'.transcript.toList = s.transcript.toList ++ [⟨.session, "EXPLAIN " ++ sql⟩] := by
  cases h with
  | answered h => exact (Action.sends_fetch x _).transcript_ok h
  | @rejected e s₁ h =>
    show s₁.transcript.toList = _
    exact (Action.sends_fetch x _).transcript_error h

theorem record_transcript (outcome : Outcome) (s : Session σ) :
    (record outcome s).2.transcript = s.transcript := by
  cases outcome <;> rfl

/-- Nothing is sent once the comparison is over. -/
theorem settle_transcript (memory : Memory) (result : Except RunError Outcome) (s : Session σ) :
    (settle memory result s).2.transcript = s.transcript := by
  cases result with
  | ok outcome => exact record_transcript outcome s
  | error e =>
    by_cases hgenuine : e.isDisconnect = true ∨ BenignPattern.classify? e.decisiveText = none
    · rw [settle_genuine hgenuine]
      cases e.isDisconnect <;> rfl
    · obtain ⟨hwell, hbenign⟩ := not_or.1 hgenuine
      obtain ⟨p, hp⟩ := Option.ne_none_iff_exists'.1 hbenign
      rw [settle_expected (by simpa using hwell) hp]
      exact record_transcript _ s

theorem run_transcript (memory : Memory) (s : Session σ) :
    (run x memory s).2.transcript = (drawAndCompare x memory (opened s)).2.transcript := by
  rw [run_apply]
  exact settle_transcript _ _ _

theorem sent_eq {s : Session σ} {sqls : List String}
    (h : (drawAndCompare x none (opened s)).2.transcript.toList =
      s.transcript.toList ++ sqls.map (Sent.mk .session)) : sent x s = sqls := by
  have hsql : Sent.sql ∘ Sent.mk .session = id := rfl
  rw [← run_transcript] at h
  rw [sent, Session.sentSince_eq h, List.map_map, hsql, List.map_id]

section

variable {s s₁ s₂ s₃ : Session σ} {base : String} {e : RunError}

theorem sent_undrawn (drawn : Step.draw (drawQuery (opened s).schema) (opened s) = (.error e, s₁)) :
    sent x s = [] := by
  apply sent_eq
  rw [(@Stopped.undrawn σ x _ _ _ drawn).drawAndCompare_eq]
  show s₁.transcript.toList = _
  rw [drawn_transcript drawn, List.map_nil, List.append_nil]
  rfl

theorem sent_first (drawn : Step.draw (drawQuery (opened s).schema) (opened s) = (.ok base, s₁))
    (first : Action.fetch x base s₁ = .error e s₂) : sent x s = [base] := by
  apply sent_eq
  rw [(Stopped.base drawn first).drawAndCompare_eq]
  show s₂.transcript.toList = _
  rw [(Action.sends_fetch x base).transcript_error first, drawn_transcript drawn]
  rfl

theorem sent_second {baseRows : List Row}
    (drawn : Step.draw (drawQuery (opened s).schema) (opened s) = (.ok base, s₁))
    (first : Action.fetch x base s₁ = .ok baseRows s₂)
    (second : Action.fetch x (Sql.withTautology base) s₂ = .error e s₃) :
    sent x s = [base, Sql.withTautology base] := by
  apply sent_eq
  rw [(Stopped.rewritten drawn first second).drawAndCompare_eq]
  show s₃.transcript.toList = _
  rw [(Action.sends_fetch x _).transcript_error second,
    (Action.sends_fetch x base).transcript_ok first, drawn_transcript drawn, List.append_assoc]
  rfl

end

/-- A check that stops has sent at most its two queries, and last the one that it stopped on. -/
theorem Stopped.sent_getLast? {s s' : Session σ} {e : RunError} {sql : Option String}
    (h : Stopped x (opened s) e sql s') :
    (sent x s).length ≤ 2 ∧ (sent x s).getLast? = sql := by
  cases h with
  | undrawn drawn =>
    rw [sent_undrawn drawn]
    exact ⟨Nat.zero_le _, rfl⟩
  | base drawn first =>
    rw [sent_first drawn first]
    exact ⟨by simp, rfl⟩
  | rewritten drawn first second =>
    rw [sent_second drawn first second]
    exact ⟨by simp, rfl⟩

/-- A check that is answered twice has sent both queries, and requests for plans after them. -/
theorem Answered.sent_eq_append {s s' : Session σ} {base : String}
    {baseRows rewrittenRows : List Row} (h : Answered x (opened s) base baseRows rewrittenRows s') :
    ∃ plans, sent x s = [base, Sql.withTautology base] ++ plans := by
  have hboth := h.transcript
  by_cases hlength : baseRows.length = rewrittenRows.length
  · refine ⟨[], sent_eq ?_⟩
    rw [h.drawAndCompare_eq, judge_same hlength]
    exact hboth
  · obtain ⟨f, s₁, s₂, -, -, -, -, hbase, hrewritten, hjudge⟩ := judge_different hlength s'
    refine ⟨["EXPLAIN " ++ base, "EXPLAIN " ++ Sql.withTautology base], sent_eq ?_⟩
    rw [h.drawAndCompare_eq, hjudge]
    show s₂.transcript.toList = _
    rw [hrewritten.transcript, hbase.transcript, hboth, List.map_append]
    simp [opened]

end Check

end RowParity
