import RowParity.Proofs.Campaign.Upkeep
import RowParity.Proofs.Check.Transcript
import RowParity.Proofs.Workload.Targeting
import RowParity.Proofs.Workload.ToppingUp

/-!
# The sources of statements

`Session.Issues Kind` tells of which kind the statements are that a session has sent meanwhile, and
`Session.DrawsOn` that they were all generated from the schema, which stayed as it was. Topping up,
updates and checks draw on the schema; a filling creates generated tables and adds rows to them.
-/

namespace RowParity

variable {σ α β : Type} {x : Executor σ} {s s₁ s' : Session σ}

/-- From `s` to `s'` statements of this kind were sent, and no others. -/
def Session.Issues (Kind : String → Prop) (s s' : Session σ) : Prop :=
  ∃ sqls, s'.statements = s.statements ++ sqls ∧ ∀ sql ∈ sqls, Kind sql

/-- The schema has stayed, and only statements that are generated from it were sent. -/
structure Session.DrawsOn (s s' : Session σ) : Prop where
  schema_eq : s'.schema = s.schema
  issued : s.Issues s.schema.Yields s'

namespace Session.Issues

variable {Kind : String → Prop}

theorem refl (s : Session σ) : s.Issues Kind s :=
  ⟨[], (List.append_nil _).symm, List.forall_mem_nil _⟩

theorem trans (h : s.Issues Kind s₁) (h' : s₁.Issues Kind s') : s.Issues Kind s' := by
  obtain ⟨sqls, hsqls, hkind⟩ := h
  obtain ⟨others, hothers, hkind'⟩ := h'
  refine ⟨sqls ++ others, ?_, List.forall_mem_append.2 ⟨hkind, hkind'⟩⟩
  rw [hothers, hsqls, List.append_assoc]

theorem imp {Kind' : String → Prop} (h : s.Issues Kind s') (himp : ∀ sql, Kind sql → Kind' sql) :
    s.Issues Kind' s' := by
  obtain ⟨sqls, hsqls, hkind⟩ := h
  exact ⟨sqls, hsqls, fun sql hsql => himp sql (hkind sql hsql)⟩

theorem of_unsent (h : s'.transcript = s.transcript) : s.Issues Kind s' := by
  refine ⟨[], ?_, List.forall_mem_nil _⟩
  rw [Link.statements, h, List.append_nil, Link.statements]

theorem of_transcript {sqls : List String}
    (h : s'.transcript.toList = s.transcript.toList ++ sqls.map (Sent.mk .session))
    (hkind : ∀ sql ∈ sqls, Kind sql) : s.Issues Kind s' :=
  ⟨sqls, Link.statements_append h, hkind⟩

end Session.Issues

namespace Session.DrawsOn

theorem refl (s : Session σ) : s.DrawsOn s :=
  ⟨rfl, .refl s⟩

theorem trans (h : s.DrawsOn s₁) (h' : s₁.DrawsOn s') : s.DrawsOn s' := by
  refine ⟨h'.schema_eq.trans h.schema_eq, h.issued.trans ?_⟩
  rw [← h.schema_eq]
  exact h'.issued

end Session.DrawsOn

/-- Trials of generated statements draw on the schema. -/
theorem Tried.drawsOn {trials : List Trial} {result : Except RunError α}
    (h : Tried x s trials result s') (hyields : ∀ trial ∈ trials, s.schema.Yields trial.sql) :
    s.DrawsOn s' :=
  ⟨h.schema_eq, .of_transcript h.course.sends_trials.transcript_eq (List.forall_mem_map.2 hyields)⟩

/-! ## Kinds of statements -/

/-- What an action sends are the statements among its deeds. -/
theorem Action.Coursed.issues {Kind : String → Prop} {action : Action σ α}
    (h : action.Coursed x fun deed => ∀ sql, deed.sql? = some sql → Kind sql) :
    action.result.Keeps (Session.Issues Kind) := by
  intro s
  obtain ⟨deeds, hkind, hcourse⟩ := h s
  refine ⟨_, hcourse.adds.statements, fun sql hsql => ?_⟩
  obtain ⟨deed, hdeed, hsome⟩ := List.mem_filterMap.1 hsql
  exact hkind deed hdeed sql hsome

/-- Trials of a kind are statements of that kind. -/
theorem Action.Tries.coursed {Kind : String → Prop} {action : Action σ α}
    {law : Schema → List Trial → Except RunError α → Prop}
    (h : ∀ schema, Tries x schema (law schema) action)
    (hkind : ∀ schema trials result, law schema trials result → ∀ trial ∈ trials, Kind trial.sql) :
    action.Coursed x fun deed => ∀ sql, deed.sql? = some sql → Kind sql := by
  intro s
  obtain ⟨trials, hlaw, hcourse⟩ := h s.schema s rfl
  refine ⟨_, List.forall_mem_map.2 fun trial htrial sql hsql => ?_, hcourse⟩
  cases hsql
  exact hkind _ _ _ hlaw trial htrial

/-! ## Filling -/

namespace Action

/-- What a filling sends. -/
def Fills (sql : String) : Prop :=
  IsCreation sql ∨ ∃ table : Table, table.YieldsRow sql

theorem fillDatabase_issues (x : Executor σ) (millis : Int) :
    (fillDatabase x millis).result.Keeps (Session.Issues Fills) := by
  have hcreate (runId n : Nat) : (createTables x millis runId n 0).Coursed x
      fun deed => ∀ sql, deed.sql? = some sql → Fills sql := by
    refine Tries.coursed (fun schema => createTables_tries x schema millis runId n 0) ?_
    rintro _ _ _ ⟨creations, rfl, hcreated⟩
    exact List.forall_mem_map.2 fun creation hcreation =>
      .inl (hcreated.isCreation creation hcreation)
  have hseed (tables : List Table) : (seedTables x tables).Coursed x
      fun deed => ∀ sql, deed.sql? = some sql → Fills sql := by
    refine Tries.coursed (fun schema => seedTables_tries x schema tables) ?_
    rintro _ _ _ ⟨seedings, rfl, hseeded⟩ trial htrial
    exact .inr (hseeded.yieldsRow trial htrial)
  exact Coursed.issues (.bind (.drawn _) fun _ => .bind (.info _) fun _ => .bind (.drawn _) fun _ =>
    .bind (hcreate _ _) fun _ => .bind (renewSchema_coursed x fun _ => nofun) fun _ =>
      .bind (.info _) fun _ => .bind (hseed _) fun _ => .bind .schema fun _ =>
        .bind (.info _) fun _ => .pure _)

theorem renewSchema_issues (x : Executor σ) (Kind : String → Prop) :
    (renewSchema x).result.Keeps (Session.Issues Kind) :=
  Coursed.issues (renewSchema_coursed x fun _ => nofun)

theorem addRow_issues (x : Executor σ) (table : Table) :
    (addRow x table).result.Keeps (Session.Issues table.YieldsRow) :=
  Coursed.issues (Tries.coursed (fun schema => addRow_tries x schema table) fun _ _ _ hrow =>
    hrow.yieldsRow)

end Action

/-! ## Drawing on the schema -/

/-- From a session with the schema the step draws on it. -/
def Step.DrawsFrom (schema : Schema) (step : Step σ α) : Prop :=
  ∀ s : Session σ, s.schema = schema → s.DrawsOn (step s).2

namespace Step

variable {schema : Schema}

theorem DrawsFrom.pure (a : α) : (Pure.pure a : Step σ α).DrawsFrom schema :=
  fun s _ => .refl s

theorem DrawsFrom.bind {step : Step σ α} {next : α → Step σ β} (h : step.DrawsFrom schema)
    (hnext : ∀ a, (next a).DrawsFrom schema) : (step >>= next).DrawsFrom schema := by
  intro s hs
  have hfirst := h s hs
  exact hfirst.trans (hnext _ _ (hfirst.schema_eq.trans hs))

/-- Nothing that is reported was sent. -/
theorem DrawsFrom.exception (e : RunError) (sql : Option String) :
    (Step.exception e sql : Step σ Unit).DrawsFrom schema :=
  fun s _ => ⟨rfl, .refl s⟩

theorem DrawsFrom.fetch {sql : String} (h : schema.Yields sql) :
    (Action.fetch x sql).result.DrawsFrom schema := by
  rintro s rfl
  have hschema := (Session.sameSchema_frame x).fetch sql s
  have hsent : ((Action.fetch x sql).result s).2.transcript.toList =
      s.transcript.toList ++ [sql].map (Sent.mk .session) :=
    (Action.sends_fetch x sql).transcript s
  exact ⟨hschema, .of_transcript hsent (List.forall_mem_singleton.2 h)⟩

end Step

/-! ## Workloads -/

namespace Action

theorem topUp_drawsOn (x : Executor σ) : (topUp x).result.Keeps Session.DrawsOn := by
  intro s
  obtain ⟨refills, htoppedUp⟩ := topUp_toppedUp x s
  exact htoppedUp.drawsOn htoppedUp.yields

theorem updateRows_drawsOn (x : Executor σ) : (updateRows x).result.Keeps Session.DrawsOn := by
  intro s
  obtain ⟨trial?, hupdated⟩ := updateRows_updated x s
  exact hupdated.drawsOn hupdated.yields

end Action

/-! ## Checks -/

namespace Check

variable {schema : Schema}

theorem plan_drawsFrom {sql : String} (h : schema.Asks sql) : (plan x sql).DrawsFrom schema := by
  unfold plan
  refine .bind (.fetch (.explained h)) fun answer => ?_
  cases answer with
  | ok rows => exact .pure _
  | error e => exact .bind (.exception e _) fun _ => .pure _

theorem judge_drawsFrom {base rewritten : String} (hbase : schema.Asks base)
    (hrewritten : schema.Asks rewritten) (baseRows rewrittenRows : List Row) :
    (judge x base rewritten baseRows rewrittenRows).DrawsFrom schema := by
  unfold judge
  split
  · exact .pure _
  · exact .bind (plan_drawsFrom hbase) fun _ => .bind (plan_drawsFrom hrewritten) fun _ => .pure _

theorem compareForms_drawsFrom {base : String} (hbase : schema.Asks base)
    (hrewritten : schema.Asks (Sql.withTautology base)) :
    (compareForms x base).DrawsFrom schema := by
  unfold compareForms
  refine .bind (.fetch (.asked hbase)) fun answer => ?_
  cases answer with
  | error e => exact .pure _
  | ok baseRows =>
    refine .bind (.fetch (.asked hrewritten)) fun answer => ?_
    cases answer with
    | error e => exact .pure _
    | ok rewrittenRows =>
      exact .bind (judge_drawsFrom hbase hrewritten _ _) fun _ => .pure _

theorem drawAndCompare_drawsOn (x : Executor σ) (memory : Memory) :
    (drawAndCompare x memory).Keeps Session.DrawsOn := by
  intro s
  have hdraw : s.DrawsOn (Step.draw (drawQuery s.schema) s).2 := ⟨rfl, .refl s⟩
  rcases hdrawn : Step.draw (drawQuery s.schema) s with ⟨e | base, s₁⟩ <;> rw [hdrawn] at hdraw
  · rw [drawAndCompare_undrawn hdrawn]
    exact hdraw
  · rw [drawAndCompare_drawn hdrawn]
    have hsource : (drawQuery s.schema s.random).1 = .ok base := congrArg Prod.fst hdrawn
    exact hdraw.trans
      (compareForms_drawsFrom (.base hsource) (.rewritten hsource) s₁ hdraw.schema_eq)

theorem run_drawsOn (x : Executor σ) (memory : Memory) :
    (run x memory).Keeps Session.DrawsOn :=
  run_keeps .refl (fun _ _ _ => .trans) (fun _ _ s => ⟨rfl, .refl s⟩) (fun _ s => ⟨rfl, .refl s⟩)
    (drawAndCompare_drawsOn x) memory

end Check

theorem Panel.check_drawsOn (x : Executor σ) (panel : Panel) :
    Step.Keeps Session.DrawsOn ((Panel.oracle x).check panel) :=
  Panel.check_keeps .refl (fun _ _ _ => .trans) (Check.run_drawsOn x) panel

end RowParity
