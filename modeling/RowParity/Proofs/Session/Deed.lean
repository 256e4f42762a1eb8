import RowParity.Proofs.Catalog.Reading
import RowParity.Proofs.Session.Loss
import RowParity.Proofs.Session.Refresh

/-!
# Deeds

Two things can go wrong in a session: a statement that it sends, and a refresh of its schema. A deed
is one of them with the errors that it met. `Course x s deeds end? s'` says that a session came from
`s` to `s'` by these deeds, in this order, with nothing but draws and messages between them. On a
course a rejected statement is reported and passed over, and a lost connection ends the course there
and then: `end?` is the error that it ends in.
-/

namespace RowParity

variable {σ α β : Type} {x : Executor σ}

inductive Deed where
  /-- A statement was sent; `error` is the engine's, unless the statement was accepted. -/
  | statement (sql : String) (error : Option EngineError)
  /-- The schema was read anew; `errors` are those of the attempts that failed. -/
  | refresh (errors : List RunError)

namespace Deed

def sql? : Deed → Option String
  | statement sql _ => some sql
  | refresh _ => none

/-- The connection was lost, or neither attempt to read the schema succeeded. -/
inductive IsFatal : Deed → Prop
  | lost (sql message : String) : IsFatal (statement sql (some (.connection message)))
  | unreadable (first second : RunError) : IsFatal (refresh [first, second])

/-- The error events of the deed. A rejected statement has one, with its own text; so has a refresh
that failed at first, which is about no statement. -/
def reports : Deed → List (String × Option String)
  | statement sql (some (.statement rejected reason)) =>
    [((EngineError.statement rejected reason).message, some sql)]
  | refresh (first :: _) => [(first.message, none)]
  | statement _ _ | refresh [] => []

end Deed

/-! ## Single deeds -/

/-- The statement was sent, for its effect or for its rows, and met the error, if any. -/
inductive Delivered (x : Executor σ) (sql : String) (s : Session σ) :
    Option EngineError → Session σ → Prop
  | executed {s' : Session σ} (ran : Action.execute x sql s = .ok () s') :
      Delivered x sql s none s'
  | refused {s' : Session σ} {e : EngineError}
      (ran : Action.execute x sql s = .error (.engine e) s') : Delivered x sql s (some e) s'
  | fetched {s' : Session σ} {rows : List Row} (ran : Action.fetch x sql s = .ok rows s') :
      Delivered x sql s none s'
  | unfetched {s' : Session σ} {e : EngineError}
      (ran : Action.fetch x sql s = .error (.engine e) s') : Delivered x sql s (some e) s'

/-- The deed ends the work in the error, and the session is left as it was at that moment. -/
inductive Fatal (x : Executor σ) (s : Session σ) : Deed → RunError → Session σ → Prop
  | lost {s' : Session σ} {sql message : String}
      (sent : Delivered x sql s (some (.connection message)) s') :
      Fatal x s (.statement sql (some (.connection message))) (.engine (.connection message)) s'
  | unreadable {s₁ s' : Session σ} {first second : RunError}
      (failed : Action.renewSchemaOnce x s = .error first s₁)
      (again : Action.renewSchemaOnce x (Step.exception first none s₁).2 = .error second s') :
      Fatal x s (.refresh [first, second]) (Action.secondFailure second) s'

/-- Delivering a statement reports it, sends it and changes nothing but the link. -/
theorem Delivered.keeps {R : Session σ → Session σ → Prop} {sql : String} {s s' : Session σ}
    {error : Option EngineError} (h : Delivered x sql s error s')
    (hR : ∀ (s : Session σ) (link : Link σ),
      link.journal.events = s.journal.events ++ [.query sql] →
      link.transcript = s.transcript.push ⟨.session, sql⟩ → R s { s with toLink := link }) :
    R s s' := by
  have hexecute := (Action.sends_execute x sql).keeps hR s
  have hfetch := (Action.sends_fetch x sql).keeps hR s
  cases h with
  | executed ran => rwa [Action.result_ok ran] at hexecute
  | refused ran => rwa [Action.result_error ran] at hexecute
  | fetched ran => rwa [Action.result_ok ran] at hfetch
  | unfetched ran => rwa [Action.result_error ran] at hfetch

theorem Action.renewSchemaOnce_error {s s' : Session σ} {e : RunError}
    (h : Action.renewSchemaOnce x s = .error e s') : e.isDisconnect = true := by
  rw [Action.renewSchemaOnce_eq] at h
  split at h
  · next hread =>
    cases h
    obtain ⟨reason, rfl⟩ := Introspection.readSchema_error hread
    rfl
  · cases h

namespace Fatal

theorem isFatal {s s' : Session σ} {deed : Deed} {e : RunError} (h : Fatal x s deed e s') :
    deed.IsFatal := by
  cases h with
  | lost => exact .lost _ _
  | unreadable => exact .unreadable _ _

theorem isDisconnect {s s' : Session σ} {deed : Deed} {e : RunError} (h : Fatal x s deed e s') :
    e.isDisconnect = true := by
  cases h with
  | lost => rfl
  | unreadable _ again =>
    have hlost := Action.renewSchemaOnce_error again
    rwa [Action.secondFailure, if_pos hlost]

end Fatal

/-! ## Courses -/

inductive Course (x : Executor σ) : Session σ → List Deed → Option RunError → Session σ → Prop
  | done (s : Session σ) : Course x s [] none s
  | drew {s s' : Session σ} {deeds : List Deed} {end? : Option RunError} {α : Type} (d : Draw α)
      (rest : Course x (Step.draw d s).2 deeds end? s') : Course x s deeds end? s'
  | informed {s s' : Session σ} {deeds : List Deed} {end? : Option RunError} (message : String)
      (rest : Course x (Step.info message s).2 deeds end? s') : Course x s deeds end? s'
  | accepted {s s₁ s' : Session σ} {deeds : List Deed} {end? : Option RunError} {sql : String}
      (sent : Delivered x sql s none s₁) (rest : Course x s₁ deeds end? s') :
      Course x s (.statement sql none :: deeds) end? s'
  | rejected {s s₁ s' : Session σ} {deeds : List Deed} {end? : Option RunError}
      {sql rejected reason : String}
      (sent : Delivered x sql s (some (.statement rejected reason)) s₁)
      (rest : Course x (Step.exception (.engine (.statement rejected reason)) (some sql) s₁).2
        deeds end? s') :
      Course x s (.statement sql (some (.statement rejected reason)) :: deeds) end? s'
  | refreshed {s s₁ s' : Session σ} {deeds : List Deed} {end? : Option RunError}
      (read : Action.renewSchemaOnce x s = .ok () s₁) (rest : Course x s₁ deeds end? s') :
      Course x s (.refresh [] :: deeds) end? s'
  | reread {s s₁ s₂ s' : Session σ} {deeds : List Deed} {end? : Option RunError} {first : RunError}
      (failed : Action.renewSchemaOnce x s = .error first s₁)
      (read : Action.renewSchemaOnce x (Step.exception first none s₁).2 = .ok () s₂)
      (rest : Course x s₂ deeds end? s') :
      Course x s (.refresh [first] :: deeds) end? s'
  | ended {s s' : Session σ} {deed : Deed} {e : RunError} (fatal : Fatal x s deed e s') :
      Course x s [deed] (some e) s'

namespace Course

variable {s s₁ s' : Session σ} {deeds : List Deed} {end? : Option RunError}

theorem append {others : List Deed} (h : Course x s deeds none s₁)
    (h' : Course x s₁ others end? s') : Course x s (deeds ++ others) end? s' := by
  generalize hnone : (none : Option RunError) = end₁ at h
  induction h with
  | done => exact h'
  | drew d _ ih => exact .drew d (ih h' hnone)
  | informed message _ ih => exact .informed message (ih h' hnone)
  | accepted sent _ ih => exact .accepted sent (ih h' hnone)
  | rejected sent _ ih => exact .rejected sent (ih h' hnone)
  | refreshed read _ ih => exact .refreshed read (ih h' hnone)
  | reread failed read _ ih => exact .reread failed read (ih h' hnone)
  | ended => cases hnone

end Course

/-- How a course can come out: it has met nothing fatal and goes on, or it ends in its last deed,
the only fatal one, and leaves the session as it was at that moment. -/
inductive Concluded (x : Executor σ) (s : Session σ) :
    List Deed → Option RunError → Session σ → Prop
  | passed {s' : Session σ} {deeds : List Deed} (course : Course x s deeds none s')
      (harmless : ∀ deed ∈ deeds, ¬deed.IsFatal) : Concluded x s deeds none s'
  | broken {s₁ s' : Session σ} {earlier : List Deed} {last : Deed} {e : RunError}
      (course : Course x s earlier none s₁) (harmless : ∀ deed ∈ earlier, ¬deed.IsFatal)
      (fatal : Fatal x s₁ last e s') : Concluded x s (earlier ++ [last]) (some e) s'

namespace Concluded

variable {s s₁ s' : Session σ} {deeds : List Deed} {end? : Option RunError}

theorem prepend {earlier : List Deed} (hearlier : Course x s earlier none s₁)
    (hharmless : ∀ deed ∈ earlier, ¬deed.IsFatal) (h : Concluded x s₁ deeds end? s') :
    Concluded x s (earlier ++ deeds) end? s' := by
  cases h with
  | passed course harmless =>
    exact .passed (hearlier.append course) (List.forall_mem_append.2 ⟨hharmless, harmless⟩)
  | broken course harmless fatal =>
    rw [← List.append_assoc]
    exact .broken (hearlier.append course) (List.forall_mem_append.2 ⟨hharmless, harmless⟩) fatal

/-- A single harmless deed in front does not change how the course comes out. -/
theorem cons {deed : Deed} (hdeed : Course x s [deed] none s₁) (hharmless : ¬deed.IsFatal)
    (h : Concluded x s₁ deeds end? s') : Concluded x s (deed :: deeds) end? s' :=
  h.prepend hdeed (List.forall_mem_singleton.2 hharmless)

theorem of_course (h : Course x s deeds end? s') : Concluded x s deeds end? s' := by
  induction h with
  | done s => exact .passed (.done s) (List.forall_mem_nil _)
  | drew d _ ih => exact ih.prepend (.drew d (.done _)) (List.forall_mem_nil _)
  | informed message _ ih => exact ih.prepend (.informed message (.done _)) (List.forall_mem_nil _)
  | accepted sent _ ih => exact ih.cons (.accepted sent (.done _)) (by rintro ⟨⟩)
  | rejected sent _ ih => exact ih.cons (.rejected sent (.done _)) (by rintro ⟨⟩)
  | refreshed read _ ih => exact ih.cons (.refreshed read (.done _)) (by rintro ⟨⟩)
  | reread failed read _ ih => exact ih.cons (.reread failed read (.done _)) (by rintro ⟨⟩)
  | ended fatal => exact @broken _ x _ _ _ [] _ _ (.done _) (List.forall_mem_nil _) fatal

/-- The course ends in an error if and only if it has met something fatal. -/
theorem isSome_iff (h : Concluded x s deeds end? s') :
    (∃ e, end? = some e) ↔ ∃ deed ∈ deeds, deed.IsFatal := by
  cases h with
  | passed _ harmless =>
    constructor
    · rintro ⟨e, he⟩
      cases he
    · rintro ⟨deed, hdeed, hfatal⟩
      exact absurd hfatal (harmless deed hdeed)
  | broken _ _ fatal =>
    exact ⟨fun _ => ⟨_, List.mem_concat_self, fatal.isFatal⟩, fun _ => ⟨_, rfl⟩⟩

end Concluded

/-! ## What a course leaves behind -/

/-- The statement, if it was sent by the session itself. -/
def Sent.ofSession? : Sent → Option String
  | ⟨.session, sql⟩ => some sql
  | ⟨.introspection, _⟩ => none

/-- The statements that the session itself has sent so far, without those of the introspection. -/
def Link.statements (link : Link σ) : List String :=
  link.transcript.toList.filterMap Sent.ofSession?

theorem Link.statements_append {link link' : Link σ} {sqls : List String}
    (h : link'.transcript.toList = link.transcript.toList ++ sqls.map (Sent.mk .session)) :
    link'.statements = link.statements ++ sqls := by
  rw [statements, h, List.filterMap_append, List.filterMap_map, ← statements]
  exact congrArg (link.statements ++ ·) List.filterMap_some

/-- From `s` to `s'` these error events were reported and these statements were sent. -/
structure Session.Adds (errors : List (String × Option String)) (statements : List String)
    (s s' : Session σ) : Prop where
  errors : s'.journal.errors = s.journal.errors ++ errors
  statements : s'.statements = s.statements ++ statements

namespace Session.Adds

variable {s s₁ s' : Session σ} {errors errors' : List (String × Option String)}
  {statements statements' : List String}

theorem refl (s : Session σ) : Adds [] [] s s :=
  ⟨(List.append_nil _).symm, (List.append_nil _).symm⟩

theorem trans (h : Adds errors statements s s₁) (h' : Adds errors' statements' s₁ s') :
    Adds (errors ++ errors') (statements ++ statements') s s' :=
  ⟨by rw [h'.errors, h.errors, List.append_assoc],
    by rw [h'.statements, h.statements, List.append_assoc]⟩

theorem of_delivered {sql : String} {error : Option EngineError}
    (h : Delivered x sql s error s') : Adds [] [sql] s s' := by
  refine h.keeps fun s link hevents hsent => ⟨?_, ?_⟩
  · show link.journal.errors = _
    simp [Journal.errors, hevents, Event.error?]
  · show link.statements = _
    simp [Link.statements, hsent, Sent.ofSession?]

theorem of_report (event : Event) (s : Session σ) :
    Adds event.error?.toList [] s (Step.report event s).2 := by
  refine ⟨?_, (List.append_nil _).symm⟩
  show (s.journal.log event).errors = _
  rw [Journal.errors, Journal.events_log, List.filterMap_append]
  cases event <;> rfl

theorem of_exchanged {exchanges : List Exchange} {link : Link σ}
    (h : Exchanged x s.toLink exchanges link) : Adds [] [] s { s with toLink := link } := by
  constructor
  · show link.journal.errors = _
    rw [Journal.errors, h.events_eq, List.append_nil]
    rfl
  · show link.transcript.toList.filterMap Sent.ofSession? = _
    rw [h.transcript_eq, List.filterMap_append, Link.statements]
    simp [Sent.ofSession?, Function.comp_def]

/-- A refresh is no event of an error, whether it succeeds or fails. -/
theorem of_renewSchemaOnce (s : Session σ) :
    Adds [] [] s ((Action.renewSchemaOnce x).result s).2 := by
  obtain ⟨exchanges, hexchanged, -⟩ := Introspection.readSchema_follows x s.toLink
  have hread := of_exchanged (s := s) hexchanged
  rw [Action.result, Action.renewSchemaOnce_eq]
  rcases hrun : Introspection.readSchema x s.toLink with ⟨e | schema, link⟩ <;> rw [hrun] at hread
  · exact hread
  · have hinfo := of_report (.info ("Schema refreshed, now has " ++ toString schema.size ++
      " tables")) { s with toLink := link }
    exact hread.trans ⟨hinfo.errors, hinfo.statements⟩

theorem of_renewed (h : Action.renewSchemaOnce x s = .ok () s') : Adds [] [] s s' := by
  have hrenew := of_renewSchemaOnce (x := x) s
  rwa [Action.result_ok h] at hrenew

theorem of_unrenewed {e : RunError} (h : Action.renewSchemaOnce x s = .error e s') :
    Adds [] [] s s' := by
  have hrenew := of_renewSchemaOnce (x := x) s
  rwa [Action.result_error h] at hrenew

end Session.Adds

theorem Fatal.adds {s s' : Session σ} {deed : Deed} {e : RunError} (h : Fatal x s deed e s') :
    Session.Adds deed.reports deed.sql?.toList s s' := by
  cases h with
  | lost sent => exact .of_delivered sent
  | @unreadable s₁ _ first _ failed again =>
    have hreport := Session.Adds.of_report (.exception first.message none) s₁
    exact ((Session.Adds.of_unrenewed failed).trans hreport).trans (.of_unrenewed again)

/-- The statements that are sent on a course are those of its deeds, and the error events are those
that its deeds give rise to. -/
theorem Course.adds {s s' : Session σ} {deeds : List Deed} {end? : Option RunError}
    (h : Course x s deeds end? s') :
    Session.Adds (deeds.flatMap Deed.reports) (deeds.filterMap Deed.sql?) s s' := by
  induction h with
  | done s => exact .refl s
  | drew d _ ih => exact ⟨ih.errors, ih.statements⟩
  | informed message _ ih => exact (Session.Adds.of_report (.info message) _).trans ih
  | accepted sent _ ih => exact (Session.Adds.of_delivered sent).trans ih
  | rejected sent _ ih =>
    exact (Session.Adds.of_delivered sent).trans
      ((Session.Adds.of_report (.exception _ (some _)) _).trans ih)
  | refreshed read _ ih => exact (Session.Adds.of_renewed read).trans ih
  | reread failed read _ ih =>
    have hread := (Session.Adds.of_renewed read).trans ih
    exact (Session.Adds.of_unrenewed failed).trans
      ((Session.Adds.of_report (.exception _ none) _).trans hread)
  | @ended s _ deed _ fatal =>
    rw [List.flatMap_singleton]
    have hadds := fatal.adds
    cases deed <;> exact hadds

end RowParity
