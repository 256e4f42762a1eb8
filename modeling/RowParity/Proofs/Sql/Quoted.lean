import RowParity.Sql.Quoted

/-!
# Quoting loses nothing

Different texts have different literals and different identifiers. A quoted text is found again,
whatever stands behind it, as long as that does not begin with another quote character
(`readQuoted?_enclosed`), and nothing else is read as a quoted text (`readQuoted?_eq_some`).
-/

namespace RowParity.Sql

variable {mark : Char}

theorem doubled_injective {cs ds : List Char} (h : doubled mark cs = doubled mark ds) :
    cs = ds := by
  induction cs generalizing ds with
  | nil =>
    cases ds with
    | nil => rfl
    | cons d ds =>
      rw [doubled, doubled] at h
      split at h <;> cases h
  | cons c cs ih =>
    cases ds with
    | nil =>
      rw [doubled, doubled] at h
      split at h <;> cases h
    | cons d ds =>
      rw [doubled, doubled] at h
      by_cases hc : c = mark
      · by_cases hd : d = mark
        · rw [if_pos hc, if_pos hd] at h
          rw [hc, hd, ih (List.cons.inj (List.cons.inj h).2).2]
        · rw [if_pos hc, if_neg hd] at h
          exact absurd (List.cons.inj h).1.symm hd
      · by_cases hd : d = mark
        · rw [if_neg hc, if_pos hd] at h
          exact absurd (List.cons.inj h).1 hc
        · rw [if_neg hc, if_neg hd] at h
          rw [(List.cons.inj h).1, ih (List.cons.inj h).2]

theorem doubled_eq_self {cs : List Char} (h : mark ∉ cs) : doubled mark cs = cs := by
  induction cs with
  | nil => rfl
  | cons c cs ih =>
    have hc : c ≠ mark := Ne.symm (List.ne_of_not_mem_cons h)
    rw [doubled, if_neg hc, ih (List.not_mem_of_not_mem_cons h)]

theorem doubled_append (cs ds : List Char) :
    doubled mark (cs ++ ds) = doubled mark cs ++ doubled mark ds := by
  induction cs with
  | nil => rfl
  | cons c cs ih =>
    rw [List.cons_append, doubled, doubled, ih]
    split
    · rfl
    · rfl

theorem enclosed_injective {cs ds : List Char} (h : enclosed mark cs = enclosed mark ds) :
    cs = ds := by
  rw [enclosed, enclosed] at h
  exact doubled_injective (List.append_cancel_right (List.cons.inj h).2)

theorem literal_injective {s t : String} (h : literal s = literal t) : s = t :=
  String.toList_injective (enclosed_injective (String.ofList_injective h))

/-! ## Reading -/

/-- Reads the text up to the first mark that is not doubled, a doubled one standing for one, and
what is left behind that mark. -/
def readEnclosed? (mark : Char) : List Char → Option (List Char × List Char)
  | [] => none
  | [c] => if c = mark then some ([], []) else none
  | c :: d :: cs =>
    if c ≠ mark then (readEnclosed? mark (d :: cs)).map fun read => (c :: read.1, read.2)
    else if d = mark then (readEnclosed? mark cs).map fun read => (mark :: read.1, read.2)
    else some ([], d :: cs)

/-- Reads a quoted text at the front: its value, and what is left. -/
def readQuoted? (mark : Char) : List Char → Option (List Char × List Char)
  | [] => none
  | c :: cs => if c = mark then readEnclosed? mark cs else none

theorem readEnclosed?_cons {c : Char} (h : c ≠ mark) {cs : List Char} (hcs : cs ≠ []) :
    readEnclosed? mark (c :: cs) =
      (readEnclosed? mark cs).map fun read => (c :: read.1, read.2) := by
  cases cs with
  | nil => exact absurd rfl hcs
  | cons d cs => rw [readEnclosed?, if_pos h]

theorem readEnclosed?_doubled (cs : List Char) {rest : List Char} (hrest : rest.head? ≠ some mark) :
    readEnclosed? mark (doubled mark cs ++ mark :: rest) = some (cs, rest) := by
  induction cs with
  | nil =>
    cases rest with
    | nil => rw [doubled, List.nil_append, readEnclosed?, if_pos rfl]
    | cons d rest =>
      have hd : d ≠ mark := fun heq => hrest (congrArg some heq)
      rw [doubled, List.nil_append, readEnclosed?, if_neg (by simp), if_neg hd]
  | cons c cs ih =>
    rw [doubled]
    by_cases hc : c = mark
    · rw [if_pos hc, List.cons_append, List.cons_append, readEnclosed?, if_neg (by simp),
        if_pos rfl, ih, hc]
      rfl
    · rw [if_neg hc, List.cons_append, readEnclosed?_cons hc (by simp), ih]
      rfl

/-- **Quoted texts delimit themselves.** -/
theorem readQuoted?_enclosed (cs : List Char) {rest : List Char} (hrest : rest.head? ≠ some mark) :
    readQuoted? mark (enclosed mark cs ++ rest) = some (cs, rest) := by
  rw [enclosed, List.cons_append, List.append_assoc, readQuoted?, if_pos rfl]
  exact readEnclosed?_doubled cs hrest

theorem readEnclosed?_eq_some {cs value rest : List Char}
    (h : readEnclosed? mark cs = some (value, rest)) :
    cs = doubled mark value ++ mark :: rest := by
  induction cs using readEnclosed?.induct mark generalizing value with
  | case1 => cases h
  | case2 =>
    rw [readEnclosed?, if_pos rfl] at h
    cases h
    rfl
  | case3 c hc =>
    rw [readEnclosed?, if_neg hc] at h
    cases h
  | case4 c d cs hc ih =>
    rw [readEnclosed?, if_pos hc] at h
    obtain ⟨⟨text, left⟩, hread, heq⟩ := Option.map_eq_some_iff.1 h
    cases heq
    rw [doubled, if_neg hc, List.cons_append, ← ih hread]
  | case5 c cs hc ih =>
    rw [readEnclosed?, if_neg hc, if_pos rfl] at h
    obtain ⟨⟨text, left⟩, hread, heq⟩ := Option.map_eq_some_iff.1 h
    cases heq
    rw [doubled, if_pos rfl, List.cons_append, List.cons_append, ← ih hread]
    simpa using hc
  | case6 c d cs hc hd =>
    rw [readEnclosed?, if_neg hc, if_neg hd] at h
    cases h
    simpa [doubled] using hc

/-- Only quoted texts are read. -/
theorem readQuoted?_eq_some {cs value rest : List Char}
    (h : readQuoted? mark cs = some (value, rest)) : cs = enclosed mark value ++ rest := by
  cases cs with
  | nil => cases h
  | cons c cs =>
    rw [readQuoted?] at h
    split at h
    · next hc =>
      rw [hc, readEnclosed?_eq_some h, enclosed, List.cons_append, List.append_assoc]
      rfl
    · cases h

end RowParity.Sql
