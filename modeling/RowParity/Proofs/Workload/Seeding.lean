import RowParity.Proofs.Generate.Name
import RowParity.Proofs.Random.Range
import RowParity.Proofs.Workload.Addition

/-!
# Creating and seeding tables

The laws of the two halves of filling a database, as trials: `Created` says how tables are created
one after the other, and `Seeded` how rows are added to those that were accepted. Rows are made for
a table as the schema has it, and as it was generated if the schema does not have it.
-/

namespace RowParity

variable {σ : Type} {x : Executor σ} {schema : Schema}

/-! ## Creations -/

/-- Names that differ in more than the case of letters differ. -/
theorem Text.nodup_of_distinct {names : List String}
    (h : names.Pairwise fun a b => equalIgnoringCase a b = false) : names.Nodup := by
  refine h.imp fun hab heq => ?_
  rw [heq, equalIgnoringCase, beq_self_eq_true] at hab
  cases hab

/-- A table that was generated, and the error that its creation met, if any. -/
structure Creation where
  table : Table
  error : Option EngineError := none
  deriving DecidableEq, Repr

namespace Creation

def trial (creation : Creation) : Trial :=
  ⟨creation.table.createStatement, creation.error⟩

/-- The table was generated under the name with the ordinal. -/
def IsGenerated (millis : Int) (runId i : Nat) (creation : Creation) : Prop :=
  ∃ source, creation.table = (Generate.table (Generate.tableName i millis runId) source).1

/-- The tables whose creation was accepted. -/
def accepted (creations : List Creation) : List Table :=
  (creations.filter (·.trial.isAccepted)).map table

end Creation

theorem Creation.names_eq {millis : Int} {runId : Nat} {ordinals : List Nat}
    {creations : List Creation} (h : List.Forall₂ (IsGenerated millis runId) ordinals creations) :
    creations.map (·.table.name) = ordinals.map (Generate.tableName · millis runId) := by
  induction h with
  | nil => rfl
  | cons hfirst _ ih =>
    obtain ⟨source, htable⟩ := hfirst
    rw [List.map_cons, List.map_cons, htable, (Generate.table_isGenerated _ source).1, ih]

theorem Creation.accepted_cons (creation : Creation) (creations : List Creation) :
    accepted (creation :: creations) =
      if creation.trial.isAccepted then creation.table :: accepted creations
      else accepted creations := by
  unfold accepted
  rw [List.filter_cons]
  split <;> rfl

/-- So many tables were created, with the ordinals from `i` on, up to a lost connection. -/
inductive Created (millis : Int) (runId : Nat) :
    Nat → Nat → List Creation → Except RunError (List Table) → Prop
  | done (i : Nat) : Created millis runId 0 i [] (.ok [])
  | lost {n i : Nat} {creation : Creation} {e : RunError}
      (generated : creation.IsGenerated millis runId i)
      (lost : creation.trial.outcome = .error e) :
      Created millis runId (n + 1) i [creation] (.error e)
  | tried {n i : Nat} {creation : Creation} {accepted : Bool} {creations : List Creation}
      {result : Except RunError (List Table)} (generated : creation.IsGenerated millis runId i)
      (outcome : creation.trial.outcome = .ok accepted)
      (rest : Created millis runId n (i + 1) creations result) :
      Created millis runId (n + 1) i (creation :: creations)
        (result.map fun others => if accepted then creation.table :: others else others)

namespace Created

variable {millis : Int} {runId n i : Nat} {creations : List Creation}

theorem isGenerated {result : Except RunError (List Table)}
    (h : Created millis runId n i creations result) :
    ∀ creation ∈ creations, ∃ j, creation.IsGenerated millis runId j := by
  induction h with
  | done => exact List.forall_mem_nil _
  | lost generated => exact List.forall_mem_singleton.2 ⟨_, generated⟩
  | tried generated _ _ ih => exact List.forall_mem_cons.2 ⟨⟨_, generated⟩, ih⟩

theorem isCreation {result : Except RunError (List Table)}
    (h : Created millis runId n i creations result) :
    ∀ creation ∈ creations, IsCreation creation.trial.sql := by
  intro creation hcreation
  obtain ⟨j, source, htable⟩ := h.isGenerated creation hcreation
  exact ⟨_, source, congrArg Table.createStatement htable⟩

/-- One table was generated for each ordinal, in order. -/
theorem generated {created : List Table} (h : Created millis runId n i creations (.ok created)) :
    List.Forall₂ (Creation.IsGenerated millis runId) (List.range' i n) creations := by
  generalize hok : (Except.ok created : Except RunError (List Table)) = result at h
  induction h generalizing created with
  | done => exact .nil
  | lost => cases hok
  | @tried n i creation accepted creations result generated _ _ ih =>
    cases result with
    | error e => cases hok
    | ok others =>
      rw [List.range'_succ]
      exact .cons generated (ih rfl)

theorem names_eq {created : List Table} (h : Created millis runId n i creations (.ok created)) :
    creations.map (·.table.name) =
      (List.range' i n).map (Generate.tableName · millis runId) :=
  Creation.names_eq h.generated

theorem length_eq {created : List Table} (h : Created millis runId n i creations (.ok created)) :
    creations.length = n := by
  have hlength := congrArg List.length h.names_eq
  rwa [List.length_map, List.length_map, List.length_range'] at hlength

/-- What is created are the accepted tables. -/
theorem accepted_eq {created : List Table} (h : Created millis runId n i creations (.ok created)) :
    created = Creation.accepted creations := by
  generalize hok : (Except.ok created : Except RunError (List Table)) = result at h
  induction h generalizing created with
  | done =>
    cases hok
    rfl
  | lost => cases hok
  | @tried _ _ _ _ _ result _ outcome _ ih =>
    cases result with
    | error e => cases hok
    | ok others =>
      cases hok
      rw [Creation.accepted_cons, (Trial.isAccepted_of_outcome outcome).1, ← ih rfl]

/-- Every created table is a generated one. -/
theorem exists_generated {created : List Table}
    (h : Created millis runId n i creations (.ok created)) :
    ∀ table ∈ created, ∃ j,
      table.name = Generate.tableName j millis runId ∧ table.columns ≠ [] := by
  intro table htable
  rw [h.accepted_eq, Creation.accepted] at htable
  obtain ⟨creation, hcreation, rfl⟩ := List.mem_map.1 htable
  obtain ⟨j, source, hgenerated⟩ := h.isGenerated creation (List.mem_filter.1 hcreation).1
  obtain ⟨hname, hcolumns, -⟩ :=
    Generate.table_isGenerated (Generate.tableName j millis runId) source
  rw [hgenerated]
  exact ⟨j, hname, hcolumns⟩

/-- The created tables have different names, also up to the case of letters. -/
theorem pairwise_names {created : List Table}
    (h : Created millis runId n i creations (.ok created)) :
    created.Pairwise fun a b => Text.equalIgnoringCase a.name b.name = false := by
  have hall : (creations.map (·.table.name)).Pairwise fun a b =>
      Text.equalIgnoringCase a b = false := by
    rw [h.names_eq]
    refine List.Pairwise.map _ (fun j k hne => ?_) List.nodup_range'
    exact Bool.eq_false_iff.2 fun hsame => hne (Generate.equalIgnoringCase_tableName_iff.1 hsame).1
  have hsub : (created.map Table.name).Sublist (creations.map (·.table.name)) := by
    rw [h.accepted_eq, Creation.accepted, List.map_map]
    exact List.filter_sublist.map _
  exact List.pairwise_map.1 (hall.sublist hsub)

theorem nodup_names {created : List Table}
    (h : Created millis runId n i creations (.ok created)) :
    (created.map Table.name).Nodup :=
  Text.nodup_of_distinct (List.pairwise_map.2 h.pairwise_names)

end Created

theorem Action.createTables_tries (x : Executor σ) (schema : Schema) (millis : Int)
    (runId n i : Nat) :
    Tries x schema (fun trials result => ∃ creations, trials = creations.map Creation.trial ∧
      Created millis runId n i creations result) (createTables x millis runId n i) := by
  induction n generalizing i with
  | zero => exact .pure ⟨[], rfl, .done i⟩
  | succ n ih =>
    unfold createTables
    refine .draw fun source => ?_
    have hread := Generate.readBack_table i millis runId source
    -- From here on the table is only known to have been generated.
    generalize htable : (Generate.table (Generate.tableName i millis runId) source).1 = table
      at hread
    have hgenerated (error : Option EngineError) :
        Creation.IsGenerated millis runId i ⟨table, error⟩ := ⟨source, htable.symm⟩
    refine .bind (tryExecute_tries x schema table.createStatement) ?_ ?_
    · rintro _ e ⟨error, rfl, hresult⟩
      exact ⟨[⟨table, error⟩], rfl, .lost (hgenerated error) hresult.symm⟩
    · rintro _ accepted ⟨error, rfl, hresult⟩
      have houtcome : (Creation.trial ⟨table, error⟩).outcome = .ok accepted := hresult.symm
      refine .bind (ih (i + 1)) ?_ ?_
      · rintro _ e ⟨creations, rfl, hcreated⟩
        exact ⟨_, rfl, .tried (hgenerated error) houtcome hcreated⟩
      · rintro _ others ⟨creations, rfl, hcreated⟩
        have htried := Created.tried (hgenerated error) houtcome hcreated
        rw [hread]
        exact .pure ⟨_, by simp [Creation.trial], htried⟩

/-! ## Seedings -/

/-- The table as the schema has it, or else as it is given. -/
def Schema.visible (schema : Schema) (table : Table) : Table :=
  (schema.table? table.name).getD table

/-- Rows were added to a table that was created: the table that they were made for, and the trials
of each row. -/
structure Seeding where
  created : Table
  used : Table
  rows : List (List Trial)
  deriving DecidableEq, Repr

def Seeding.trials (seeding : Seeding) : List Trial :=
  seeding.rows.flatten

/-- One to three rows were added to each of the tables, up to a lost connection. -/
inductive Seeded (schema : Schema) : List Table → List Seeding → Except RunError Unit → Prop
  | done : Seeded schema [] [] (.ok ())
  | lost {table : Table} {others : List Table} {n : Nat} {rows : List (List Trial)} {e : RunError}
      (count : 1 ≤ n ∧ n ≤ 3) (rowsTried : TriedRows (schema.visible table) n rows (.error e)) :
      Seeded schema (table :: others) [⟨table, schema.visible table, rows⟩] (.error e)
  | tried {table : Table} {others : List Table} {n : Nat} {rows : List (List Trial)} {added : Bool}
      {seedings : List Seeding} {result : Except RunError Unit} (count : 1 ≤ n ∧ n ≤ 3)
      (rowsTried : TriedRows (schema.visible table) n rows (.ok added))
      (rest : Seeded schema others seedings result) :
      Seeded schema (table :: others) (⟨table, schema.visible table, rows⟩ :: seedings) result

namespace Action

theorem visibleTable_tries (x : Executor σ) (schema : Schema) (generated : Table) :
    Tries x schema (fun trials result => trials = [] ∧ result = .ok (schema.visible generated))
      (visibleTable generated) := by
  unfold visibleTable
  refine .ofSchema ?_
  unfold Schema.visible
  cases schema.table? generated.name with
  | some table => exact .pure ⟨rfl, rfl⟩
  | none => exact .info _ (.pure ⟨rfl, rfl⟩)

theorem seedCount_mem (source : Random.Source) :
    1 ≤ (Random.int32In 1 3 source).1.toNat ∧ (Random.int32In 1 3 source).1.toNat ≤ 3 := by
  have hmem := Random.int32In_mem (a := 1) (b := 3) (by decide) (by decide) source
  omega

theorem seedTables_tries (x : Executor σ) (schema : Schema) (tables : List Table) :
    Tries x schema (fun trials result => ∃ seedings, trials = seedings.flatMap Seeding.trials ∧
      Seeded schema tables seedings result) (seedTables x tables) := by
  induction tables with
  | nil => exact .pure ⟨[], rfl, .done⟩
  | cons table others ih =>
    unfold seedTables
    refine .bind (visibleTable_tries x schema table) (fun _ e h => nomatch h.2) ?_
    rintro _ used ⟨rfl, hused⟩
    cases hused
    refine .draw fun source => .info _ (.bind (addRows_tries x schema _ _) ?_ ?_)
    · rintro _ e ⟨rows, rfl, hrows⟩
      exact ⟨[_], by simp [Seeding.trials], .lost (seedCount_mem source) hrows⟩
    · rintro _ added ⟨rows, rfl, hrows⟩
      refine ih.imp ?_
      rintro _ result ⟨seedings, rfl, hseeded⟩
      exact ⟨_ :: seedings, by simp [Seeding.trials], .tried (seedCount_mem source) hrows hseeded⟩

end Action

theorem Seeded.yieldsRow {schema : Schema} {tables : List Table} {seedings : List Seeding}
    {result : Except RunError Unit} (h : Seeded schema tables seedings result) :
    ∀ trial ∈ seedings.flatMap Seeding.trials, ∃ table : Table, table.YieldsRow trial.sql := by
  induction h with
  | done => exact List.forall_mem_nil _
  | lost _ rowsTried =>
    rw [List.flatMap_singleton]
    exact fun trial htrial => ⟨_, rowsTried.yieldsRow trial htrial⟩
  | tried _ rowsTried _ ih =>
    exact List.forall_mem_append.2
      ⟨fun trial htrial => ⟨_, rowsTried.yieldsRow trial htrial⟩, ih⟩

/-! ## Seedings that went through -/

/-- Rows were added to the table without losing the connection: one to three, and what was tried
for each of them. -/
structure Seeding.IsSettled (schema : Schema) (seeding : Seeding) : Prop where
  used_eq : seeding.used = schema.visible seeding.created
  count : 1 ≤ seeding.rows.length ∧ seeding.rows.length ≤ 3
  rows : ∀ trials ∈ seeding.rows, ∃ added, TriedRow seeding.used trials (.ok added)

theorem Seeded.of_ok {schema : Schema} {tables : List Table} {seedings : List Seeding}
    (h : Seeded schema tables seedings (.ok ())) :
    seedings.map Seeding.created = tables ∧ ∀ seeding ∈ seedings, seeding.IsSettled schema := by
  generalize hok : (Except.ok () : Except RunError Unit) = result at h
  induction h with
  | done => exact ⟨rfl, List.forall_mem_nil _⟩
  | lost => cases hok
  | @tried table others n rows added seedings result count rowsTried _ ih =>
    obtain ⟨hcreated, hsettled⟩ := ih hok
    obtain ⟨hlength, hrows⟩ := rowsTried.of_ok
    refine ⟨congrArg (table :: ·) hcreated, List.forall_mem_cons.2 ⟨⟨rfl, ?_, hrows⟩, hsettled⟩⟩
    rw [hlength]
    exact count

theorem Schema.table?_some {schema : Schema} {name : String} {table : Table}
    (h : schema.table? name = some table) :
    table ∈ schema.tables ∧ Text.equalIgnoringCase table.name name = true :=
  ⟨List.mem_of_find?_eq_some h, by simpa using List.find?_some h⟩

/-- The table that is used has the name of the one that was created, up to the case of letters. -/
theorem Schema.equalIgnoringCase_visible (schema : Schema) (table : Table) :
    Text.equalIgnoringCase (schema.visible table).name table.name = true := by
  rw [visible]
  cases hfound : schema.table? table.name with
  | none => exact beq_self_eq_true _
  | some found => exact (table?_some hfound).2

/-- The schema has the table, but knows of no column of it. -/
def Schema.LacksColumns (schema : Schema) (name : String) : Prop :=
  ∃ table, schema.table? name = some table ∧ table.columns = []

/-- The created table is used, unless the schema lacks its columns, with columns of its own. -/
theorem Schema.visible_columns_eq_nil {schema : Schema} {table : Table} (h : table.columns ≠ []) :
    (schema.visible table).columns = [] ↔ schema.LacksColumns table.name := by
  unfold visible LacksColumns
  cases htable : schema.table? table.name with
  | none => exact ⟨fun hnil => absurd hnil h, fun ⟨_, hsome, _⟩ => nomatch hsome⟩
  | some found =>
    constructor
    · exact fun hnil => ⟨found, rfl, hnil⟩
    · rintro ⟨_, hsome, hnil⟩
      cases hsome
      exact hnil

namespace Seeding.IsSettled

variable {schema : Schema} {seeding : Seeding} (h : seeding.IsSettled schema)

include h

/-- Nothing is sent for a table without columns. -/
theorem trials_eq_nil (hcolumns : seeding.used.columns = []) : seeding.trials = [] := by
  refine List.flatten_eq_nil_iff.2 fun trials htrials => ?_
  obtain ⟨added, hrow⟩ := h.rows trials htrials
  exact hrow.eq_nil_iff.2 hcolumns

/-- For a table with columns one or two statements are sent for each row. -/
theorem length_trials (hcolumns : seeding.used.columns ≠ []) :
    seeding.rows.length ≤ seeding.trials.length ∧
      seeding.trials.length ≤ 2 * seeding.rows.length := by
  have hrows : ∀ trials ∈ seeding.rows, 1 ≤ trials.length ∧ trials.length ≤ 2 := by
    intro trials htrials
    obtain ⟨added, hrow⟩ := h.rows trials htrials
    exact ⟨List.length_pos_iff.2 (mt hrow.eq_nil_iff.1 hcolumns), hrow.length_le⟩
  unfold Seeding.trials
  generalize seeding.rows = rows at hrows
  induction rows with
  | nil => exact ⟨Nat.le_refl _, Nat.le_refl _⟩
  | cons trials rows ih =>
    obtain ⟨hfirst, hothers⟩ := List.forall_mem_cons.1 hrows
    have hrest := ih hothers
    rw [List.flatten_cons, List.length_append, List.length_cons]
    omega

end Seeding.IsSettled

namespace Seeding

/-- The statements of a seeding all go to its table. -/
theorem addsTo_eq {seeding : Seeding} (htarget : ∀ trial ∈ seeding.trials, ∃ target,
      Sql.insertTarget? trial.sql = some target ∧
        Text.equalIgnoringCase target seeding.created.name = true) (name : String) :
    ∀ trial ∈ seeding.trials,
      Sql.addsTo name trial.sql = Text.equalIgnoringCase seeding.created.name name := by
  intro trial htrial
  obtain ⟨target, hsql, hsame⟩ := htarget trial htrial
  exact Sql.addsTo_eq hsql hsame name

/-- What is sent for one of the created tables is sent for no other. -/
theorem countP_addsTo {seedings : List Seeding} {seeding : Seeding}
    (hmember : seeding ∈ seedings)
    (htarget : ∀ seeding ∈ seedings, ∀ trial ∈ seeding.trials, ∃ target,
      Sql.insertTarget? trial.sql = some target ∧
        Text.equalIgnoringCase target seeding.created.name = true)
    (hdifferent : seedings.Pairwise fun a b =>
      Text.equalIgnoringCase a.created.name b.created.name = false) :
    (seedings.flatMap trials).countP
        (fun trial => Sql.addsTo seeding.created.name trial.sql) = seeding.trials.length := by
  induction seedings with
  | nil => cases hmember
  | cons first others ih =>
    obtain ⟨hfirst, hothers⟩ := List.pairwise_cons.1 hdifferent
    obtain ⟨htfirst, htothers⟩ := List.forall_mem_cons.1 htarget
    have hadds := addsTo_eq htfirst seeding.created.name
    rw [List.flatMap_cons, List.countP_append]
    rcases List.mem_cons.1 hmember with rfl | hmember
    · have hall : seeding.trials.countP
          (fun trial => Sql.addsTo seeding.created.name trial.sql) = seeding.trials.length :=
        List.countP_eq_length.2 fun trial htrial => by
          rw [hadds trial htrial]
          exact beq_self_eq_true _
      have hnone : (others.flatMap trials).countP
          (fun trial => Sql.addsTo seeding.created.name trial.sql) = 0 := by
        refine List.countP_eq_zero.2 fun trial htrial => ?_
        obtain ⟨other, hother, htrial⟩ := List.mem_flatMap.1 htrial
        rw [addsTo_eq (htothers other hother) _ trial htrial, Text.equalIgnoringCase,
          Bool.beq_comm, ← Text.equalIgnoringCase, hfirst other hother]
        exact Bool.false_ne_true
      rw [hall, hnone, Nat.add_zero]
    · have hnone : first.trials.countP
          (fun trial => Sql.addsTo seeding.created.name trial.sql) = 0 :=
        List.countP_eq_zero.2 fun trial htrial => by
          rw [hadds trial htrial, hfirst seeding hmember]
          exact Bool.false_ne_true
      rw [hnone, Nat.zero_add]
      exact ih hmember htothers hothers

end Seeding

end RowParity
