import RowParity.Proofs.Session.Frame

/-!
# Reading the schema anew

Reading the schema fails only if no listing of the tables is answered, and then the error is a lost
connection; so a refresh never ends in the error that is kept for a schema out of sight.
-/

namespace RowParity

variable {σ : Type} {R : Session σ → Session σ → Prop} {x : Executor σ}

namespace Introspection

theorem tableNames_cons (failure : Option EngineError) (label sql : String)
    (others : List (String × String)) (link : Link σ) :
    tableNames x failure ((label, sql) :: others) link =
      match Link.ask .introspection sql x.fetch link with
      | (.ok rows, link) => (.ok (firstTexts rows), link)
      | (.error e, link) =>
        tableNames x (some e) others
          (Link.note (notice .warn ("Table listing via " ++ label ++ " failed: " ++ e.message))
            link).2 := by
  rw [tableNames, Link.bind_apply]
  rcases Link.ask .introspection sql x.fetch link with ⟨_ | _, _⟩ <;> rfl

theorem tableNames_error {failure : Option EngineError} {listings : List (String × String)}
    {link link' : Link σ} {e : RunError}
    (h : tableNames x failure listings link = (.error e, link')) :
    ∃ reason, e = .connectivity reason := by
  induction listings generalizing failure link with
  | nil => exact ⟨_, (Except.error.inj (Prod.mk.inj h).1).symm⟩
  | cons listing others ih =>
    obtain ⟨label, sql⟩ := listing
    rw [tableNames_cons] at h
    split at h
    · cases h
    · exact ih h

theorem readSchema_eq (link : Link σ) :
    readSchema x link =
      match tableNames x none listings link with
      | (.error e, link) => (.error e, link)
      | (.ok names, link) =>
        let tables := readTables x (workNames names) link
        (.ok ⟨tables.1⟩, tables.2) := by
  rw [readSchema, Link.bind_apply]
  rcases tableNames x none listings link with ⟨_ | _, _⟩ <;> rfl

/-- The schema cannot be read only if the tables cannot be listed. -/
theorem readSchema_error {link link' : Link σ} {e : RunError}
    (h : readSchema x link = (.error e, link')) : ∃ reason, e = .connectivity reason := by
  rw [readSchema_eq] at h
  split at h
  · next hnames =>
    cases h
    exact tableNames_error hnames
  · cases h

end Introspection

namespace Frame

variable (frame : Frame x R) (hread : (Step.onLink (Introspection.readSchema x)).Keeps R)
  (hinstall : ∀ schema, (Step.installSchema schema : Step σ Unit).Keeps R)

include frame hread hinstall

theorem renewSchemaOnce : (Action.renewSchemaOnce x).Within R RunError.IsLoss := by
  unfold Action.renewSchemaOnce
  -- What kind of error this is depends on how it came about, which `bind` would forget.
  refine Action.Within.bindResult frame.trans (.ofStep hread) fun s answer s' hanswer => ?_
  cases answer with
  | ok schema => exact frame.bind (frame.info _) fun _ => .ofStep (hinstall schema)
  | error e =>
    obtain ⟨reason, rfl⟩ := Introspection.readSchema_error (Action.onLink_ok hanswer)
    exact frame.throw rfl

/-- A refresh fails only by a lost connection, also the second time. -/
theorem renewSchema : (Action.renewSchema x).Within R RunError.IsLoss := by
  have once := frame.renewSchemaOnce hread hinstall
  unfold Action.renewSchema
  refine frame.bind once.attempt fun answer => ?_
  cases answer with
  | ok _ => exact frame.pure ()
  | error first =>
    refine frame.bind (frame.exception first none) fun _ =>
      Action.Within.bindResult frame.trans once.attempt fun s answer s' hanswer => ?_
    cases answer with
    | ok _ => exact frame.pure ()
    | error second =>
      -- Only the second failure is thrown, and it keeps its kind if it is a lost connection.
      have hlost : second.isDisconnect = true := (once.error (Action.attempt_error hanswer)).2
      refine frame.throw ?_
      rw [RunError.IsLoss, Action.secondFailure, if_pos hlost]
      exact hlost

end Frame

theorem Session.renewSchema_sameStats (x : Executor σ) :
    (Action.renewSchema x).Within Session.SameStats RunError.IsLoss :=
  (Session.sameStats_frame x).renewSchema (fun _ => rfl) fun _ _ => rfl

end RowParity
