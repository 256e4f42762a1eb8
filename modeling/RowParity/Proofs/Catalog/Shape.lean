import Mathlib.Data.Fintype.Fin
import Mathlib.Data.Prod.Lex
import Mathlib.Data.String.Basic
import RowParity.Proofs.Catalog.Order

/-!
# What the shape of a schema tells

The shape keeps the names of tables and columns with their numbers and nothing else. Two schemas
have one shape exactly if their tables can be paired off such that partners have the same names
(`shape_complete`). Both sorts inside a shape are sorts by a linear order, so a sorted list tells
which entries there are and how often.
-/

namespace RowParity

/-- The tables have one name, and the same names of columns, each of them as often. -/
structure Table.SameNames (table table' : Table) : Prop where
  name_eq : table.name = table'.name
  count_eq : ∀ name, table.columnNames.count name = table'.columnNames.count name

namespace Schema

/-- The tables of the schemas can be paired off such that partners have the same names. -/
def Matches (schema schema' : Schema) : Prop :=
  ∃ partner : Fin schema.tables.length ≃ Fin schema'.tables.length,
    ∀ i, (schema.tables.get i).SameNames (schema'.tables.get (partner i))

def tableNames (schema : Schema) : List String :=
  schema.tables.map Table.name

/-- All columns by their names, each behind the name of its table. -/
def columnPaths (schema : Schema) : List (String × String) :=
  schema.tables.flatMap fun table => table.columnNames.map (table.name, ·)

/-! ## Linear orders -/

theorem namesLE_iff {as bs : List String} : namesLE as bs = true ↔ as ≤ bs := by
  induction as generalizing bs with
  | nil =>
    refine iff_of_true rfl ?_
    cases bs with
    | nil => exact le_rfl
    | cons b bs => exact (List.nil_lt_cons b bs).le
  | cons a as ih =>
    cases bs with
    | nil => exact iff_of_false Bool.false_ne_true (not_le.2 (List.nil_lt_cons a as))
    | cons b bs =>
      rw [le_iff_lt_or_eq, List.cons_lt_cons_iff, namesLE]
      by_cases h : a = b
      · rw [if_pos h, ih, le_iff_lt_or_eq]
        simp [h]
      · rw [if_neg h, nameLE, decide_eq_true_eq, le_iff_lt_or_eq]
        simp [h]

theorem entryLE_iff {a b : String × List String} : entryLE a b = true ↔ toLex a ≤ toLex b := by
  rw [Prod.Lex.le_iff, entryLE]
  by_cases h : a.1 = b.1
  · simp [h, namesLE_iff]
  · simp [h, nameLE, le_iff_lt_or_eq]

/-- The order of entries sorts a list into one order, however it came. -/
theorem mergeSort_entryLE_eq_iff {entries entries' : List (String × List String)} :
    entries.mergeSort entryLE = entries'.mergeSort entryLE ↔ entries.Perm entries' := by
  refine mergeSort_eq_iff_perm (fun a b c hab hbc => ?_) (fun a b => ?_) fun a b hab hba => ?_
  · exact entryLE_iff.2 (le_trans (entryLE_iff.1 hab) (entryLE_iff.1 hbc))
  · rw [Bool.or_eq_true, entryLE_iff, entryLE_iff]
    exact le_total _ _
  · exact toLex_inj.1 (le_antisymm (entryLE_iff.1 hab) (entryLE_iff.1 hba))

/-! ## Pairing off -/

section pairing

variable {α β γ : Type} [DecidableEq γ]

theorem count_map_eq_card (f : α → γ) (xs : List α) (c : γ) :
    (xs.map f).count c = Fintype.card { i : Fin xs.length // f (xs.get i) = c } := by
  calc (xs.map f).count c
    _ = (((List.finRange xs.length).map xs.get).map f).count c := by rw [List.map_get_finRange]
    _ = (List.finRange xs.length).countP fun i => f (xs.get i) == c := by
      rw [List.map_map, List.count, List.countP_map]
      rfl
    _ = Fintype.card { i : Fin xs.length // f (xs.get i) = c } := by
      rw [Fintype.card_subtype, List.countP_eq_length_filter]
      simp [Finset.card, Finset.filter, Fin.univ_def, beq_eq_decide]

/-- Two lists have the same images, each as often, exactly if their places can be paired off such
that partners have one image. -/
theorem perm_map_iff_exists_equiv {f : α → γ} {g : β → γ} {xs : List α} {ys : List β} :
    (xs.map f).Perm (ys.map g) ↔
      ∃ partner : Fin xs.length ≃ Fin ys.length, ∀ i, f (xs.get i) = g (ys.get (partner i)) := by
  constructor
  · intro h
    have hcard (c : γ) : Fintype.card { i : Fin xs.length // f (xs.get i) = c } =
        Fintype.card { i : Fin ys.length // g (ys.get i) = c } := by
      rw [← count_map_eq_card, ← count_map_eq_card, h.count_eq]
    have hfiber := fun c => Fintype.equivOfCardEq (hcard c)
    exact ⟨Equiv.ofFiberEquiv hfiber, fun i => (Equiv.ofFiberEquiv_map hfiber i).symm⟩
  · rintro ⟨partner, hpartner⟩
    refine List.perm_iff_count.2 fun c => ?_
    rw [count_map_eq_card, count_map_eq_card]
    exact Fintype.card_congr (partner.subtypeEquiv fun i => by rw [hpartner i])

end pairing

/-! ## Shapes -/

theorem entry_eq_iff {table table' : Table} :
    entry table = entry table' ↔ table.SameNames table' := by
  rw [entry, entry, Prod.mk.injEq, mergeSort_nameLE_eq_iff, List.perm_iff_count]
  exact ⟨fun h => ⟨h.1, h.2⟩, fun h => ⟨h.name_eq, h.count_eq⟩⟩

theorem shape_eq_iff_perm {schema schema' : Schema} :
    schema.shape = schema'.shape ↔ (schema.tables.map entry).Perm (schema'.tables.map entry) :=
  mergeSort_entryLE_eq_iff

theorem shape_eq_iff_matches {schema schema' : Schema} :
    schema.shape = schema'.shape ↔ schema.Matches schema' := by
  simp only [shape_eq_iff_perm, perm_map_iff_exists_equiv, entry_eq_iff, Matches]

/-- Tables that keep their names may be changed and reordered. -/
theorem shape_eq_of_forall₂ {tables changed tables' : List Table}
    (hchanged : List.Forall₂ Table.SameNames tables changed) (hperm : changed.Perm tables') :
    shape ⟨tables⟩ = shape ⟨tables'⟩ := by
  have hentries : tables.map entry = changed.map entry := by
    clear hperm
    induction hchanged with
    | nil => rfl
    | cons hfirst _ ih => rw [List.map_cons, List.map_cons, entry_eq_iff.2 hfirst, ih]
  rw [shape_eq_iff_perm, hentries]
  exact hperm.map entry

/-- The names of all columns can be read off the shape. -/
theorem columnPaths_perm (schema : Schema) :
    schema.columnPaths.Perm (schema.shape.flatMap fun entry => entry.2.map (entry.1, ·)) := by
  have hsorted : schema.columnPaths.Perm
      ((schema.tables.map entry).flatMap fun entry => entry.2.map (entry.1, ·)) := by
    rw [columnPaths, List.flatMap_map]
    exact List.Perm.flatMap_left _ fun table _ =>
      ((List.mergeSort_perm table.columnNames nameLE).symm.map _)
  exact hsorted.trans ((List.mergeSort_perm _ entryLE).symm.flatMap_right _)

theorem tableNames_perm (schema : Schema) :
    schema.tableNames.Perm (schema.shape.map Prod.fst) := by
  have hnames : schema.tableNames = (schema.tables.map entry).map Prod.fst := by
    rw [List.map_map]
    rfl
  rw [hnames]
  exact (List.mergeSort_perm _ entryLE).symm.map _

/-- **The shape is a complete invariant of the names in a schema.** It is the same for two schemas
exactly if their tables can be paired off such that partners have the same names. So to reorder
tables and columns and to change all else but names leaves it as it is, and schemas that differ in a
name, or in how often one occurs, have different shapes. -/
theorem shape_complete :
    (∀ schema schema' : Schema, schema.shape = schema'.shape ↔ schema.Matches schema') ∧
      (∀ tables changed tables' : List Table,
        List.Forall₂ (fun table table' => table.name = table'.name ∧
          table.columnNames.Perm table'.columnNames) tables changed →
            changed.Perm tables' → shape ⟨tables⟩ = shape ⟨tables'⟩) ∧
      ∀ schema schema' : Schema,
        (∃ name, schema.tableNames.count name ≠ schema'.tableNames.count name) ∨
            (∃ path, schema.columnPaths.count path ≠ schema'.columnPaths.count path) →
          schema.shape ≠ schema'.shape := by
  refine ⟨fun _ _ => shape_eq_iff_matches, fun tables changed tables' hchanged hperm => ?_, ?_⟩
  · refine shape_eq_of_forall₂ (hchanged.imp fun table table' h => ?_) hperm
    exact ⟨h.1, List.perm_iff_count.1 h.2⟩
  · rintro schema schema' (⟨name, hname⟩ | ⟨path, hpath⟩) hshape
    · refine hname ?_
      rw [schema.tableNames_perm.count_eq, schema'.tableNames_perm.count_eq, hshape]
    · refine hpath ?_
      rw [schema.columnPaths_perm.count_eq, schema'.columnPaths_perm.count_eq, hshape]

/-- Two tables of one name, which differ in their columns. -/
def twins : List Table :=
  [.plain "t" [.declared "a" "INTEGER", .declared "b" "DATE"], .plain "t" [.declared "a" "DATE"]]

/-- The twins with one of their columns in the place of another, so that both have `a` only. -/
def likeTwins : List Table :=
  [.plain "t" [.declared "a" "INTEGER"], .plain "t" [.declared "a" "DATE", .declared "a" "DATE"]]

/-- The twins in the other order, one of them turned round, with other types and an index. -/
def turnedTwins : List Table :=
  [.plain "t" [.declared "a" "BLOB"],
    ⟨"t", [(Column.declared "b" "TEXT").notNull, .declared "a" "TEXT"], ["by_b"]⟩]

theorem shape_complete_twins :
    shape ⟨twins⟩ = shape ⟨turnedTwins⟩ ∧ Matches ⟨twins⟩ ⟨turnedTwins⟩ ∧
      shape ⟨twins⟩ ≠ shape ⟨likeTwins⟩ := by
  obtain ⟨hmatches, hreordered, hdifferent⟩ := shape_complete
  have hshape : shape ⟨twins⟩ = shape ⟨turnedTwins⟩ := by
    refine hreordered twins turnedTwins.reverse turnedTwins ?_ (List.reverse_perm _)
    exact .cons ⟨rfl, .swap _ _ _⟩ (.cons ⟨rfl, .refl _⟩ .nil)
  refine ⟨hshape, (hmatches _ _).1 hshape, hdifferent _ _ (.inr ⟨("t", "b"), ?_⟩)⟩
  decide

end Schema

end RowParity
