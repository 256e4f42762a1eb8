import Mathlib.Data.List.Pairwise
import RowParity.Proofs.Workload.Filling

/-!
# Created tables are told apart

A lookup in a schema overlooks the case of letters, so it could take one table for another. It never
does so for generated tables, whose names differ in more than the case of letters: two of them are
never found at the same entry of a schema (`Schema.tellsApart`), and each is found at the entry that
has its name.
-/

namespace RowParity

namespace Schema

/-- No two tables of the schema have names that are equal up to the case of letters. -/
def IsUnambiguous (schema : Schema) : Prop :=
  schema.tables.Pairwise fun a b => Text.equalIgnoringCase a.name b.name = false

instance (schema : Schema) : Decidable schema.IsUnambiguous :=
  inferInstanceAs (Decidable (List.Pairwise _ _))

/-- Lookups of different names come to different tables of the schema. -/
structure TellsApart (schema : Schema) (names : List String) : Prop where
  /-- A table that has one of the names is the one that is found under it. -/
  found : ∀ name ∈ names, ∀ table ∈ schema.tables,
    Text.equalIgnoringCase table.name name = true → schema.table? name = some table
  apart : names.Pairwise fun a b => ∀ t u, schema.table? a = some t → schema.table? b = some u →
    t ≠ u ∧ Text.equalIgnoringCase t.name u.name = false

/-- What two lookups find differs in name if the names that were looked up do. -/
theorem name_ne_of_table? {schema : Schema} {a b : String} {t u : Table}
    (hne : Text.equalIgnoringCase a b = false) (ht : schema.table? a = some t)
    (hu : schema.table? b = some u) : Text.equalIgnoringCase t.name u.name = false := by
  have htname := eq_of_beq (table?_some ht).2
  have huname := eq_of_beq (table?_some hu).2
  rwa [Text.equalIgnoringCase, htname, huname]

theorem IsUnambiguous.eq_of_name {schema : Schema} (h : schema.IsUnambiguous) {t u : Table}
    (ht : t ∈ schema.tables) (hu : u ∈ schema.tables)
    (hname : Text.equalIgnoringCase t.name u.name = true) : t = u := by
  have hsymm : Std.Symm fun a b : Table => Text.equalIgnoringCase a.name b.name = false :=
    ⟨fun a b hab => by rwa [Text.equalIgnoringCase, Bool.beq_comm]⟩
  by_contra hne
  rw [List.Pairwise.forall h ht hu hne] at hname
  cases hname

/-- In an unambiguous schema every table is found under its name, whatever the case of letters. -/
theorem IsUnambiguous.table?_eq {schema : Schema} (h : schema.IsUnambiguous) {name : String}
    {table : Table} (hmem : table ∈ schema.tables)
    (hname : Text.equalIgnoringCase table.name name = true) :
    schema.table? name = some table := by
  cases hfound : schema.table? name with
  | none => exact absurd hname (List.find?_eq_none.1 hfound table hmem)
  | some found =>
    obtain ⟨hfoundMem, hfoundName⟩ := table?_some hfound
    have hsame : Text.equalIgnoringCase found.name table.name = true := by
      rw [Text.equalIgnoringCase, eq_of_beq hfoundName, eq_of_beq hname, beq_self_eq_true]
    rw [h.eq_of_name hfoundMem hmem hsame]

theorem tellsApart {schema : Schema} {names : List String} (h : schema.IsUnambiguous)
    (hnames : names.Pairwise fun a b => Text.equalIgnoringCase a b = false) :
    schema.TellsApart names where
  found _ _ _ hmem hname := h.table?_eq hmem hname
  apart := hnames.imp fun hne t u ht hu => by
    have hname := name_ne_of_table? hne ht hu
    refine ⟨?_, hname⟩
    rintro rfl
    rw [Text.equalIgnoringCase, beq_self_eq_true] at hname
    cases hname

end Schema

namespace Action

/-- **Created tables are told apart.** Names of generated tables are equal up to the case of letters
only if they are made of the same ordinal, time and run. So whatever executor the tables were
created on, and whatever unambiguous schema they are looked up in afterwards, no two of them are
found at the same entry; this is the case for the schema that a filling reads. -/
theorem created_told_apart :
    (∀ (i j : Nat) (millis millis' : Int) (runId runId' : Nat),
      Text.equalIgnoringCase (Generate.tableName i millis runId)
          (Generate.tableName j millis' runId') = true ↔
        i = j ∧ millis = millis' ∧ runId = runId') ∧
    (∀ (σ : Type) (x : Executor σ) (millis : Int) (runId n i : Nat) (s s' : Session σ)
      (created : List Table), createTables x millis runId n i s = .ok created s' →
        ∀ schema : Schema, schema.IsUnambiguous →
          schema.TellsApart (created.map Table.name)) ∧
    ∀ (σ : Type) (x : Executor σ) (millis : Int) (s s' : Session σ) (names : List String),
      fillDatabase x millis s = .ok names s' → s'.schema.IsUnambiguous →
        s'.schema.TellsApart names := by
  refine ⟨fun i j millis millis' runId runId' => Generate.equalIgnoringCase_tableName_iff, ?_, ?_⟩
  · intro σ x millis runId n i s s' created hrun schema hschema
    obtain ⟨trials, ⟨creations, -, hcreated⟩, -⟩ :=
      (createTables_tries x s.schema millis runId n i).of_ok hrun
    exact Schema.tellsApart hschema (List.pairwise_map.2 hcreated.pairwise_names)
  · intro σ x millis s s' names hrun hschema
    obtain ⟨filling, s₁, s₂, hruns, rfl⟩ := runs_of_ok hrun
    exact Schema.tellsApart hschema (List.pairwise_map.2 hruns.created.pairwise_names)

/-- The tables of two ordinals, in another order and with their names in capitals. -/
def capitals : Schema :=
  ⟨[.plain "T1_1700000000000_42" [], .plain "T0_1700000000000_42" []]⟩

/-- Whether the run went through and gave tables of these names. -/
def givesNames (names : List String) (run : Except RunError (List Table) × Session (List String)) :
    Bool :=
  match run with
  | (.ok created, _) => created.map Table.name == names
  | _ => false

theorem givesNames_forgetful :
    givesNames ["t0_1700000000000_42", "t1_1700000000000_42"]
      ((createTables forgetful 1700000000000 42 2 0).result (.start ⟨[], {}, #[]⟩ 7)) = true := by
  decide +kernel

/-- Whether the run went through, and its schema is unambiguous and has the first table it named. -/
def findsFirst (run : Except RunError (List String) × Session (List String)) : Bool :=
  match run with
  | (.ok (name :: _), s) => decide s.schema.IsUnambiguous && (s.schema.table? name).isSome
  | _ => false

theorem findsFirst_forgetful :
    findsFirst ((fillDatabase forgetful 1700000000000).result (.start ⟨[], {}, #[]⟩ 7)) = true := by
  decide +kernel

theorem created_told_apart_capitals :
    (∃ created s',
      createTables forgetful 1700000000000 42 2 0 (.start ⟨[], {}, #[]⟩ 7) = .ok created s' ∧
        created.map Table.name = ["t0_1700000000000_42", "t1_1700000000000_42"] ∧
          capitals.IsUnambiguous ∧ capitals.TellsApart (created.map Table.name) ∧
            (capitals.table? "t0_1700000000000_42").map Table.name = some "T0_1700000000000_42" ∧
              (capitals.table? "t1_1700000000000_42").map Table.name =
                some "T1_1700000000000_42") ∧
    ∃ name names s' t,
      fillDatabase forgetful 1700000000000 (.start ⟨[], {}, #[]⟩ 7) = .ok (name :: names) s' ∧
        s'.schema.IsUnambiguous ∧ s'.schema.table? name = some t ∧
          s'.schema.TellsApart (name :: names) := by
  obtain ⟨-, hcreated, hfilled⟩ := created_told_apart
  constructor
  · have hcapitals : capitals.IsUnambiguous := by decide +kernel
    obtain ⟨created, s', hrun, hnames⟩ :=
      exists_ok_of_result (givesNames _) (fun _ _ => rfl) givesNames_forgetful
    exact ⟨created, s', hrun, eq_of_beq hnames, hcapitals,
      hcreated _ _ _ _ _ _ _ _ _ hrun capitals hcapitals, by decide +kernel, by decide +kernel⟩
  · obtain ⟨names, s', hrun, hfinds⟩ :=
      exists_ok_of_result findsFirst (fun _ _ => rfl) findsFirst_forgetful
    cases names with
    | nil => cases hfinds
    | cons name names =>
      obtain ⟨hschema, hfound⟩ := Bool.and_eq_true_iff.1 hfinds
      obtain ⟨t, ht⟩ := Option.isSome_iff_exists.1 hfound
      have hunambiguous := of_decide_eq_true hschema
      exact ⟨name, names, s', t, hrun, hunambiguous, ht, hfilled _ _ _ _ _ _ hrun hunambiguous⟩

end Action

end RowParity
