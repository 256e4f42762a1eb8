import Mathlib.Data.List.TakeWhile
import RowParity.Document.Path

/-!
# What stands where in a layered document

What an overlay leaves at the end of a path of keys: what the upper tree has there, laid over what
was there before, else the latter (`at?_overlay`, `at?_overlay_of_none`). Named values are laid over
a tree one by one, so of several with one name the last counts (`at?_setAll`).
-/

namespace RowParity

namespace PathStep

theorem read?_ofList {name : List Char} (hname : name ≠ []) (h : ∀ c ∈ name, isKeyChar c = true) :
    read? (String.ofList name) = some [.key (String.ofList name)] := by
  have htake : name.takeWhile isKeyChar = name := List.takeWhile_eq_self_iff.2 h
  have hdrop : name.dropWhile isKeyChar = [] := List.dropWhile_eq_nil_iff.2 h
  have hempty : name.isEmpty = false := by simpa using hname
  rw [read?, String.toList_ofList, htake, hdrop, hempty]
  simp [readMore?]

/-- A name leads to a key first, and this key stands for itself. -/
theorem exists_ofName (s : String) :
    ∃ name path, ofName s = .key name :: path ∧ ofName name = [.key name] := by
  cases hread : read? s with
  | none =>
    have hself : ofName s = [.key s] := by rw [ofName, hread]; rfl
    exact ⟨s, [], hself, hself⟩
  | some steps =>
    have hsteps := hread
    unfold read? at hsteps
    dsimp only at hsteps
    split at hsteps
    · cases hsteps
    · next hname =>
      obtain ⟨path, -, rfl⟩ := Option.map_eq_some_iff.1 hsteps
      refine ⟨_, path, by rw [ofName, hread]; rfl, ?_⟩
      rw [ofName, read?_ofList (by simpa using hname) fun c hc => List.mem_takeWhile_imp hc]
      rfl

end PathStep

namespace Tree

/-- What stands at the end of a path of keys. -/
def at? : List String → Tree → Option Tree
  | [], tree => some tree
  | name :: names, tree => (Tree.entry? name tree.entries).bind (at? names)

def IsTable (tree : Tree) : Prop :=
  ∃ entries, tree = .table entries

instance : (tree : Tree) → Decidable tree.IsTable
  | .table entries => .isTrue ⟨entries, rfl⟩
  | .nil | .boolean _ | .integer _ | .number _ | .text _ | .list _ =>
    .isFalse fun ⟨_, h⟩ => nomatch h

/-- No table that keys lead to has two entries of one name. -/
def IsKeyed (tree : Tree) : Prop :=
  ∀ names sub, tree.at? names = some sub → (sub.entries.map (·.1)).Nodup

/-- What stands on the way to the end of a path is a table, as far as there is something. -/
def IsPassable : List String → Tree → Prop
  | [], _ => True
  | name :: names, tree =>
    tree.IsTable ∧ ∀ sub, entry? name tree.entries = some sub → IsPassable names sub

/-- Each name in the tree stands for itself, so setting it again finds the same place. -/
def IsPlain (tree : Tree) : Prop :=
  ∀ name ∈ tree.entries.map (·.1), PathStep.ofName name = [.key name]

/-- Whether a change at the first path bears on what stands at the second: one of them starts with
the other, or the first leads through a list. -/
def Touches : List PathStep → List String → Prop
  | .key key :: path, name :: names => key = name ∧ Touches path names
  | _, _ => True

instance Touches.decide : (path : List PathStep) → (names : List String) →
    Decidable (Touches path names)
  | .key key :: path, name :: names =>
    have := Touches.decide path names
    inferInstanceAs (Decidable (key = name ∧ Touches path names))
  | [], _ | .place _ :: _, _ | .key _ :: _, [] => .isTrue trivial

/-- The last of the values that are named by the path. -/
def named? (names : List String) (values : List (String × Tree)) : Option Tree :=
  (values.reverse.find? fun entry => PathStep.ofName entry.1 = names.map .key).map (·.2)

variable {tree base value leaf : Tree} {change : Tree → Tree} {name other : String}
  {names : List String} {path : List PathStep} {incoming values : List (String × Tree)}

/-! ## Entries -/

theorem entry?_cons (other key : String) (value : Tree) (entries : List (String × Tree)) :
    entry? other ((key, value) :: entries) =
      if other = key then some value else entry? other entries := by
  unfold entry?
  by_cases h : other = key
  · simp [h]
  · simp [List.lookup_cons, beq_false_of_ne h, h]

theorem entry?_updateEntry (name other : String) (change : Tree → Tree)
    (entries : List (String × Tree)) :
    entry? other (updateEntry name change entries) =
      if other = name then some (change ((Tree.entry? name entries).getD .nil))
      else entry? other entries := by
  induction entries with
  | nil => simp only [updateEntry, entry?_cons]; rfl
  | cons entry entries ih =>
    obtain ⟨key, value⟩ := entry
    by_cases hkey : key = name
    · subst hkey
      by_cases h : other = key <;> simp [updateEntry, entry?_cons, h]
    · by_cases h : other = key
      · subst h
        simp [updateEntry, entry?_cons, hkey]
      · simp [updateEntry, entry?_cons, hkey, h, ih, Ne.symm hkey]

theorem map_fst_updateEntry (name : String) (change : Tree → Tree)
    (entries : List (String × Tree)) :
    (updateEntry name change entries).map (·.1) =
      if name ∈ entries.map (·.1) then entries.map (·.1) else entries.map (·.1) ++ [name] := by
  induction entries with
  | nil => rfl
  | cons entry entries ih =>
    obtain ⟨key, value⟩ := entry
    by_cases hkey : key = name
    · simp [updateEntry, hkey]
    · simp only [updateEntry, hkey, if_false, List.map_cons, ih, List.mem_cons, Ne.symm hkey,
        false_or]
      split <;> rfl

/-! ## Paths of keys -/

theorem at?_cons (tree : Tree) (name : String) (names : List String) :
    tree.at? (name :: names) = (Tree.entry? name tree.entries).bind (at? names) := rfl

theorem at?_singleton (tree : Tree) (name : String) :
    tree.at? [name] = entry? name tree.entries := by
  rw [at?_cons]
  cases entry? name tree.entries <;> rfl

/-- A missing entry may be taken for one without a value. -/
theorem at?_below (tree : Tree) (name : String) (hnames : names ≠ []) :
    ((Tree.entry? name tree.entries).getD .nil).at? names = tree.at? (name :: names) := by
  rw [at?_cons]
  cases entry? name tree.entries with
  | some sub => rfl
  | none =>
    cases names with
    | nil => exact absurd rfl hnames
    | cons name names => rfl

theorem getD_at?_below (tree : Tree) (name : String) (names : List String) :
    (((Tree.entry? name tree.entries).getD .nil).at? names).getD .nil =
      (tree.at? (name :: names)).getD .nil := by
  cases names with
  | nil => rw [at?_singleton]; rfl
  | cons other names => rw [at?_below tree name (List.cons_ne_nil other names)]

theorem entries_of_at?_cons (h : tree.at? (name :: names) = some leaf) :
    ∃ entries, tree = .table entries := by
  cases tree with
  | table entries => exact ⟨entries, rfl⟩
  | _ => cases h

theorem isKeyed_iff :
    tree.IsKeyed ↔ (tree.entries.map (·.1)).Nodup ∧
      ∀ name sub, entry? name tree.entries = some sub → sub.IsKeyed := by
  constructor
  · refine fun h => ⟨h [] tree rfl, fun name sub hsub names leaf hleaf => h (name :: names) leaf ?_⟩
    rw [at?_cons, hsub]
    exact hleaf
  · rintro ⟨hnames, hsub⟩ names leaf hleaf
    cases names with
    | nil => cases hleaf; exact hnames
    | cons name names =>
      obtain ⟨sub, hentry, hat⟩ := Option.bind_eq_some_iff.1 hleaf
      exact hsub name sub hentry names leaf hat

theorem isKeyed_of_entries_eq_nil (h : tree.entries = []) : tree.IsKeyed := by
  rw [isKeyed_iff, h]
  exact ⟨List.nodup_nil, fun _ _ hsub => nomatch hsub⟩

theorem IsKeyed.updateEntry (h : tree.IsKeyed) (name : String)
    (hchange : ∀ old : Tree, old.IsKeyed → (change old).IsKeyed) :
    (Tree.table (updateEntry name change tree.entries)).IsKeyed := by
  obtain ⟨hnames, hsub⟩ := isKeyed_iff.1 h
  refine isKeyed_iff.2 ⟨?_, fun other sub hother => ?_⟩
  · show ((Tree.updateEntry name change tree.entries).map (·.1)).Nodup
    rw [map_fst_updateEntry]
    split
    · exact hnames
    · next hnew =>
      refine List.nodup_append.2 ⟨hnames, List.nodup_cons.2 ⟨List.not_mem_nil, List.nodup_nil⟩, ?_⟩
      rintro other hother _ hname rfl
      exact hnew (List.mem_singleton.1 hname ▸ hother)
  · replace hother : entry? other (Tree.updateEntry name change tree.entries) = some sub := hother
    rw [entry?_updateEntry] at hother
    split at hother
    · cases hother
      refine hchange _ ?_
      cases hentry : entry? name tree.entries with
      | some old => exact hsub name old hentry
      | none => exact isKeyed_of_entries_eq_nil rfl
    · exact hsub other sub hother

/-! ## Overlays -/

theorem overlay_of_not_isTable (base : Tree) (h : ¬value.IsTable) : base.overlay value = value := by
  cases value with
  | table entries => exact absurd ⟨entries, rfl⟩ h
  | _ => rfl

mutual

theorem IsKeyed.overlay {base : Tree} (h : base.IsKeyed) :
    (value : Tree) → (base.overlay value).IsKeyed
  | .table incoming => IsKeyed.overlayEntries h incoming
  | .nil | .boolean _ | .integer _ | .number _ | .text _ | .list _ => isKeyed_of_entries_eq_nil rfl

theorem IsKeyed.overlayEntries {base : Tree} (h : base.IsKeyed) :
    (incoming : List (String × Tree)) → (Tree.table (overlayEntries base.entries incoming)).IsKeyed
  | [] =>
    have hbase := isKeyed_iff.1 h
    isKeyed_iff.2 hbase
  | (name, value) :: incoming =>
    IsKeyed.overlayEntries (h.updateEntry name fun _ hold => hold.overlay value) incoming

end

theorem entry?_overlayEntries (base : List (String × Tree))
    (h : (incoming.map (·.1)).Nodup) (name : String) :
    entry? name (overlayEntries base incoming) =
      match entry? name incoming with
      | some value => some (((Tree.entry? name base).getD .nil).overlay value)
      | none => entry? name base := by
  induction incoming generalizing base with
  | nil => rfl
  | cons entry incoming ih =>
    obtain ⟨key, value⟩ := entry
    obtain ⟨hkey, hincoming⟩ := List.nodup_cons.1 h
    rw [overlayEntries, ih _ hincoming, entry?_cons, entry?_updateEntry]
    by_cases hname : name = key
    · subst hname
      have habsent : entry? name incoming = none := by
        refine List.lookup_eq_none_iff.2 fun entry hentry => bne_iff_ne.2 ?_
        rintro rfl
        exact hkey (List.mem_map.2 ⟨entry, hentry, rfl⟩)
      simp [habsent]
    · simp [hname]

/-- What the upper tree has at the end of a path is laid over what was there before. -/
theorem at?_overlay (base : Tree) (h : value.IsKeyed)
    (hleaf : value.at? names = some leaf) :
    (base.overlay value).at? names = some (((base.at? names).getD .nil).overlay leaf) := by
  induction names generalizing base value with
  | nil => cases hleaf; rfl
  | cons name names ih =>
    obtain ⟨incoming, rfl⟩ := entries_of_at?_cons hleaf
    obtain ⟨hnames, hkeyed⟩ := isKeyed_iff.1 h
    obtain ⟨sub, hsub, hleaf⟩ := Option.bind_eq_some_iff.1 hleaf
    have hentry : entry? name (base.overlay (.table incoming)).entries =
        some (((Tree.entry? name base.entries).getD .nil).overlay sub) := by
      have hentry := entry?_overlayEntries base.entries hnames name
      rwa [hsub] at hentry
    rw [at?_cons, hentry, Option.bind_some, ih _ (hkeyed name sub hsub) hleaf,
      getD_at?_below]

/-- Where the upper tree has nothing at the end of a path but a way there, what was there before
stays. -/
theorem at?_overlay_of_none (base : Tree) (h : value.IsKeyed) (hway : value.IsPassable names)
    (hnone : value.at? names = none) : (base.overlay value).at? names = base.at? names := by
  induction names generalizing base value with
  | nil => cases hnone
  | cons name names ih =>
    obtain ⟨⟨incoming, rfl⟩, hway⟩ := hway
    obtain ⟨hnames, hkeyed⟩ := isKeyed_iff.1 h
    have hentry := entry?_overlayEntries base.entries hnames name
    rw [at?_cons] at hnone ⊢
    rw [entries] at hnone hentry
    rw [overlay, entries]
    cases hsub : entry? name incoming with
    | none =>
      rw [hsub] at hentry
      rw [hentry, at?_cons]
    | some sub =>
      rw [hsub] at hentry hnone
      have hnames : names ≠ [] := by
        rintro rfl
        cases hnone
      rw [hentry, Option.bind_some, ih _ (hkeyed name sub hsub) (hway sub hsub) hnone,
        at?_below base name hnames]

/-! ## Changes -/

theorem touches_nil_right (path : List PathStep) : Touches path [] := by
  cases path with
  | nil => trivial
  | cons step path => cases step <;> trivial

theorem touches_map_key (names : List String) : Touches (names.map .key) names := by
  induction names with
  | nil => trivial
  | cons name names ih => exact ⟨rfl, ih⟩

theorem isTable_updateAt_key (name : String) :
    (updateAt change (.key name :: path) tree).IsTable :=
  ⟨_, rfl⟩

/-- A change is found at the end of its path. -/
theorem at?_updateAt (change : Tree → Tree) (names : List String) (tree : Tree) :
    (updateAt change (names.map .key) tree).at? names =
      some (change ((tree.at? names).getD .nil)) := by
  induction names generalizing tree with
  | nil => rfl
  | cons name names ih =>
    rw [List.map_cons, updateAt, at?_cons, entries, entry?_updateEntry, if_pos rfl,
      Option.bind_some, ih, getD_at?_below]

theorem at?_updateAt_of_not_touches (h : ¬Touches path names) :
    (updateAt change path tree).at? names = tree.at? names := by
  induction path generalizing tree names with
  | nil => exact absurd trivial h
  | cons step path ih =>
    cases step with
    | place i => exact absurd trivial h
    | key key =>
      cases names with
      | nil => exact absurd trivial h
      | cons name names =>
        rw [updateAt, at?_cons, entries, entry?_updateEntry]
        split
        · next hname =>
          have hpath : ¬Touches path names := fun htouches => h ⟨hname.symm, htouches⟩
          have hnames : names ≠ [] := by
            rintro rfl
            exact hpath (touches_nil_right path)
          rw [Option.bind_some, ih hpath, ← hname, at?_below tree name hnames]
        · rfl

theorem IsKeyed.updateAt (hchange : ∀ old : Tree, old.IsKeyed → (change old).IsKeyed)
    (path : List PathStep) (h : tree.IsKeyed) : (updateAt change path tree).IsKeyed := by
  induction path generalizing tree with
  | nil => exact hchange tree h
  | cons step path ih =>
    cases step with
    | place i => exact isKeyed_of_entries_eq_nil rfl
    | key name => exact h.updateEntry name fun old hold => ih hold

/-- Changes at an entry of a table, and those with no bearing on it, leave the table one. -/
theorem isTable_at?_updateAt
    (h : Touches path [name, other] → path = [.key name, .key other])
    (htable : ∀ sub, tree.at? [name] = some sub → sub.IsTable) :
    ∀ sub, (updateAt change path tree).at? [name] = some sub → sub.IsTable := by
  intro sub hsub
  cases path with
  | nil => exact absurd (h trivial) (by simp)
  | cons step path =>
    cases step with
    | place i => exact absurd (h trivial) (by simp)
    | key key =>
      rw [at?_singleton, updateAt, entries, entry?_updateEntry] at hsub
      split at hsub
      · next hname =>
        cases hsub
        cases path with
        | nil => exact absurd (h ⟨hname.symm, trivial⟩) (by simp)
        | cons step path =>
          cases step with
          | place i => exact absurd (h ⟨hname.symm, trivial⟩) (by simp)
          | key other => exact isTable_updateAt_key other
      · exact htable sub (by rwa [at?_singleton])

/-! ## Named values -/

/-- What is kept when one value is set is kept when several are. -/
theorem setAll_induction {P : Tree → Prop}
    (hset : ∀ entry ∈ values, ∀ tree : Tree, P tree → P (tree.setNamed entry.1 entry.2))
    (h : P tree) : P (tree.setAll values) := by
  induction values generalizing tree with
  | nil => exact h
  | cons entry values ih =>
    obtain ⟨hentry, hvalues⟩ := List.forall_mem_cons.1 hset
    exact ih hvalues (hentry tree h)

theorem IsKeyed.setAll (h : tree.IsKeyed) (values : List (String × Tree)) :
    (tree.setAll values).IsKeyed :=
  setAll_induction (fun entry _ _ h =>
    h.updateAt (fun _ hold => hold.overlay entry.2) (PathStep.ofName entry.1)) h

theorem isTable_setNamed (tree : Tree) (name : String) (value : Tree) :
    (tree.setNamed name value).IsTable := by
  obtain ⟨key, path, hname, -⟩ := PathStep.exists_ofName name
  rw [setNamed, hname]
  exact isTable_updateAt_key key

theorem IsTable.setAll (h : tree.IsTable) (values : List (String × Tree)) :
    (tree.setAll values).IsTable :=
  setAll_induction (fun entry _ tree _ => isTable_setNamed tree entry.1 entry.2) h

theorem isTable_at?_setAll
    (h : ∀ entry ∈ values, Touches (PathStep.ofName entry.1) [name, other] →
      PathStep.ofName entry.1 = [.key name, .key other])
    (htable : ∀ sub, tree.at? [name] = some sub → sub.IsTable) :
    ∀ sub, (tree.setAll values).at? [name] = some sub → sub.IsTable :=
  setAll_induction (P := fun tree => ∀ sub, tree.at? [name] = some sub → sub.IsTable)
    (fun entry hentry _ htable => isTable_at?_updateAt (h entry hentry) htable) htable

theorem named?_cons (names : List String) (entry : String × Tree)
    (values : List (String × Tree)) :
    named? names (entry :: values) =
      (named? names values).or
        (if PathStep.ofName entry.1 = names.map .key then some entry.2 else none) := by
  rw [named?, List.reverse_cons, List.find?_append, Option.map_or]
  congr 1
  by_cases h : PathStep.ofName entry.1 = names.map .key <;> simp [h]

theorem exists_of_named? (h : named? names values = some value) :
    ∃ entry ∈ values, entry.2 = value := by
  obtain ⟨entry, hentry, hvalue⟩ := Option.map_eq_some_iff.1 h
  exact ⟨entry, List.mem_reverse.1 (List.mem_of_find?_eq_some hentry), hvalue⟩

/-- Of the values with one name the last counts; if there is none, what was there before stays. -/
theorem at?_setAll
    (h : ∀ entry ∈ values, Touches (PathStep.ofName entry.1) names →
      PathStep.ofName entry.1 = names.map .key ∧ ¬entry.2.IsTable) (tree : Tree) :
    (tree.setAll values).at? names = (named? names values).or (tree.at? names) := by
  induction values generalizing tree with
  | nil => rfl
  | cons entry values ih =>
    obtain ⟨hentry, hvalues⟩ := List.forall_mem_cons.1 h
    rw [named?_cons, Option.or_assoc]
    refine (ih hvalues (tree.setNamed entry.1 entry.2)).trans (congrArg _ ?_)
    by_cases htouches : Touches (PathStep.ofName entry.1) names
    · obtain ⟨hname, hvalue⟩ := hentry htouches
      rw [setNamed, hname, at?_updateAt, overlay_of_not_isTable _ hvalue, if_pos rfl, Option.some_or]
    · have hname : PathStep.ofName entry.1 ≠ names.map .key := fun hname =>
        htouches (hname ▸ touches_map_key names)
      rw [setNamed, at?_updateAt_of_not_touches htouches, if_neg hname, Option.none_or]

/-! ## Trees as layers -/

theorem IsPlain.setNamed (h : tree.IsPlain) (name : String) (value : Tree) :
    (tree.setNamed name value).IsPlain := by
  obtain ⟨key, path, hname, hkey⟩ := PathStep.exists_ofName name
  rw [Tree.setNamed, hname, updateAt]
  intro other hother
  rw [entries, map_fst_updateEntry] at hother
  split at hother
  · exact h other hother
  · rcases List.mem_append.1 hother with hother | hother
    · exact h other hother
    · rw [List.mem_singleton.1 hother, hkey]

theorem IsPlain.setAll (h : tree.IsPlain) (values : List (String × Tree)) :
    (tree.setAll values).IsPlain :=
  setAll_induction (fun entry _ _ h => h.setNamed entry.1 entry.2) h

/-- To set all plain entries of a tree is to lay the tree over. -/
theorem setAll_eq_overlay {base : List (String × Tree)}
    (h : (Tree.table incoming).IsPlain) :
    (Tree.table base).setAll incoming = (Tree.table base).overlay (.table incoming) := by
  induction incoming generalizing base with
  | nil => rfl
  | cons entry incoming ih =>
    obtain ⟨hentry, hincoming⟩ := List.forall_mem_cons.1 h
    have hset : (Tree.table base).setNamed entry.1 entry.2 =
        .table (Tree.updateEntry entry.1 (fun old => old.overlay entry.2) base) := by
      rw [setNamed, hentry]
      rfl
    show ((Tree.table base).setNamed entry.1 entry.2).setAll incoming = _
    rw [hset, ih hincoming]
    rfl

end Tree

end RowParity
