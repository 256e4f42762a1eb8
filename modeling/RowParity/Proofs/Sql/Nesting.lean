import RowParity.Proofs.Text.Words
import RowParity.Sql.Definition

/-!
# Commas at depth zero

What `topLevelPieces` makes of a text depends on its marks alone, that is on its parentheses and
commas. `endDepth?` follows the depth through a text without a comma at depth zero; such a text is
one piece. Pieces that were put together with commas are found again
(`topLevelPieces_intercalate`) if each of them but the last ends at depth zero, and the pieces that
a text falls into are always of this kind (`arePieces_topLevelPieces`).
-/

namespace RowParity.Sql

/-! ## Depth -/

/-- The depth after one more character. It counts the open parentheses and does not fall below
zero. -/
def depthStep (depth : Nat) (c : Char) : Nat :=
  if c = '(' then depth + 1 else if c = ')' then depth - 1 else depth

/-- The depth after a text that starts at the given depth, unless a comma stands at depth zero in
it. -/
def endDepth? : Nat → List Char → Option Nat
  | depth, [] => some depth
  | depth, c :: cs =>
    if c = '(' then endDepth? (depth + 1) cs
    else if c = ')' then endDepth? (depth - 1) cs
    else if c = ',' ∧ depth = 0 then none
    else endDepth? depth cs

theorem endDepth?_cons (depth : Nat) (c : Char) (cs : List Char) :
    endDepth? depth (c :: cs) =
      if c = ',' ∧ depth = 0 then none else endDepth? (depthStep depth c) cs := by
  rw [endDepth?, depthStep]
  by_cases hopen : c = '('
  · simp [hopen]
  by_cases hclose : c = ')'
  · simp [hclose]
  · simp only [if_neg hopen, if_neg hclose]

theorem topLevelPieces_cons (depth : Nat) (c : Char) (cs : List Char) :
    topLevelPieces depth (c :: cs) =
      if c = ',' ∧ depth = 0 then [] :: topLevelPieces 0 cs
      else Text.consHead c (topLevelPieces (depthStep depth c) cs) := by
  rw [topLevelPieces, depthStep]
  by_cases hopen : c = '('
  · simp [hopen]
  by_cases hclose : c = ')'
  · simp [hclose]
  · simp only [if_neg hopen, if_neg hclose]

def isMark (c : Char) : Bool :=
  c = '(' || c = ')' || c = ','

/-- The parentheses and commas of a text. -/
def marks (cs : List Char) : List Char :=
  cs.filter isMark

@[simp] theorem marks_append (cs ds : List Char) : marks (cs ++ ds) = marks cs ++ marks ds :=
  List.filter_append cs ds

theorem marks_eq_nil {cs : List Char} (h : ∀ c ∈ cs, isMark c = false) : marks cs = [] := by
  simpa [marks, List.filter_eq_nil_iff] using h

/-- Only marks count for the depth. -/
theorem endDepth?_marks (depth : Nat) (cs : List Char) :
    endDepth? depth (marks cs) = endDepth? depth cs := by
  induction cs generalizing depth with
  | nil => rfl
  | cons c cs ih =>
    unfold marks at ih ⊢
    by_cases hmark : isMark c = true
    · rw [List.filter_cons_of_pos hmark, endDepth?_cons, endDepth?_cons, ih]
    · rw [List.filter_cons_of_neg hmark, ih, endDepth?]
      simp only [isMark, Bool.or_eq_true, decide_eq_true_eq, not_or] at hmark
      obtain ⟨⟨hopen, hclose⟩, hcomma⟩ := hmark
      rw [if_neg hopen, if_neg hclose, if_neg fun h => hcomma h.1]

/-! ## Nested texts -/

/-- Whether, from the given depth on, parentheses match up to depth zero and commas stand inside of
them only. -/
def isNested : Nat → List Char → Bool
  | depth, [] => depth == 0
  | depth, c :: cs =>
    if c = '(' then isNested (depth + 1) cs
    else if c = ')' then depth != 0 && isNested (depth - 1) cs
    else (c != ',' || depth != 0) && isNested depth cs

theorem isNested_append {depth : Nat} {cs ds : List Char} (h : isNested depth cs = true)
    (h' : isNested 0 ds = true) : isNested depth (cs ++ ds) = true := by
  induction cs generalizing depth with
  | nil =>
    rw [isNested, beq_iff_eq] at h
    rw [h]
    exact h'
  | cons c cs ih =>
    rw [isNested] at h
    rw [List.cons_append, isNested]
    by_cases hopen : c = '('
    · rw [if_pos hopen] at h ⊢
      exact ih h
    by_cases hclose : c = ')'
    · rw [if_neg hopen, if_pos hclose, Bool.and_eq_true] at h ⊢
      exact ⟨h.1, ih h.2⟩
    · rw [if_neg hopen, if_neg hclose, Bool.and_eq_true] at h ⊢
      exact ⟨h.1, ih h.2⟩

theorem isNested_of_forall {cs : List Char} (h : ∀ c ∈ cs, c ≠ '(' ∧ c ≠ ')' ∧ c ≠ ',') :
    isNested 0 cs = true := by
  induction cs with
  | nil => rfl
  | cons c cs ih =>
    obtain ⟨hopen, hclose, hcomma⟩ := h c List.mem_cons_self
    rw [isNested, if_neg hopen, if_neg hclose, ih fun d hd => h d (List.mem_cons_of_mem c hd)]
    simp [hcomma]

theorem endDepth?_of_isNested {depth : Nat} {cs : List Char} (h : isNested depth cs = true) :
    endDepth? depth cs = some 0 := by
  induction cs generalizing depth with
  | nil =>
    rw [isNested, beq_iff_eq] at h
    rw [h, endDepth?]
  | cons c cs ih =>
    rw [isNested] at h
    rw [endDepth?]
    by_cases hopen : c = '('
    · rw [if_pos hopen] at h ⊢
      exact ih h
    by_cases hclose : c = ')'
    · rw [if_neg hopen, if_pos hclose, Bool.and_eq_true] at h
      rw [if_neg hopen, if_pos hclose, ih h.2]
    · rw [if_neg hopen, if_neg hclose, Bool.and_eq_true] at h
      -- A comma of a nested text stands inside parentheses.
      have hinside : ¬(c = ',' ∧ depth = 0) := by
        rintro ⟨rfl, rfl⟩
        exact absurd h.1 (by decide)
      rw [if_neg hopen, if_neg hclose, if_neg hinside, ih h.2]

/-! ## Pieces -/

/-- No piece has a comma at depth zero, and only after the last one may parentheses stay open. -/
structure ArePieces (pieces : List (List Char)) : Prop where
  whole : ∀ piece ∈ pieces, ∃ depth, endDepth? 0 piece = some depth
  closed : pieces.Pairwise fun piece _ => endDepth? 0 piece = some 0

theorem arePieces_of_isNested {pieces : List (List Char)}
    (h : ∀ piece ∈ pieces, isNested 0 piece = true) : ArePieces pieces where
  whole piece hpiece := ⟨0, endDepth?_of_isNested (h piece hpiece)⟩
  closed := List.pairwise_of_forall_mem_list fun piece hpiece _ _ =>
    endDepth?_of_isNested (h piece hpiece)

/-- A text without a comma at depth zero goes to the first piece of what follows as a whole. -/
theorem topLevelPieces_append {depth depth' : Nat} {cs : List Char}
    (h : endDepth? depth cs = some depth') (ds : List Char) :
    topLevelPieces depth (cs ++ ds) = cs.foldr Text.consHead (topLevelPieces depth' ds) := by
  induction cs generalizing depth with
  | nil =>
    rw [endDepth?] at h
    cases h
    rfl
  | cons c cs ih =>
    rw [endDepth?_cons] at h
    rw [List.cons_append, topLevelPieces_cons, List.foldr_cons]
    by_cases hcomma : c = ',' ∧ depth = 0
    · rw [if_pos hcomma] at h
      cases h
    · rw [if_neg hcomma] at h ⊢
      rw [ih h]

theorem topLevelPieces_whole {depth : Nat} {cs : List Char} (h : endDepth? 0 cs = some depth) :
    topLevelPieces 0 cs = [cs] := by
  have hpieces := topLevelPieces_append h []
  rw [List.append_nil] at hpieces
  rw [hpieces, topLevelPieces, Text.foldr_consHead, List.append_nil]

theorem topLevelPieces_append_comma {cs : List Char} (h : endDepth? 0 cs = some 0)
    (ds : List Char) : topLevelPieces 0 (cs ++ ',' :: ds) = cs :: topLevelPieces 0 ds := by
  have hcomma : topLevelPieces 0 (',' :: ds) = [] :: topLevelPieces 0 ds := rfl
  rw [topLevelPieces_append h, hcomma, Text.foldr_consHead, List.append_nil]

/-- Pieces with a comma and a blank between them are found again, each but the first with its
blank. -/
theorem topLevelPieces_intercalate {field : List Char} {fields : List (List Char)}
    (h : ArePieces (field :: fields)) :
    topLevelPieces 0 ([',', ' '].intercalate (field :: fields)) =
      field :: fields.map (' ' :: ·) := by
  induction fields generalizing field with
  | nil =>
    obtain ⟨depth, hdepth⟩ := h.whole field List.mem_cons_self
    rw [List.intercalate_singleton]
    exact topLevelPieces_whole hdepth
  | cons next fields ih =>
    have hclosed := List.pairwise_cons.1 h.closed
    have hothers : ArePieces (next :: fields) :=
      ⟨fun piece hpiece => h.whole piece (List.mem_cons_of_mem field hpiece), hclosed.2⟩
    have hblank : ∀ ds, topLevelPieces 0 (' ' :: ds) = Text.consHead ' ' (topLevelPieces 0 ds) :=
      fun _ => rfl
    rw [List.intercalate_cons_cons]
    show topLevelPieces 0 (field ++ [',', ' '] ++ _) = _
    rw [List.append_assoc, List.cons_append,
      topLevelPieces_append_comma (hclosed.1 next List.mem_cons_self), List.cons_append,
      List.nil_append, hblank, ih hothers]
    rfl

/-- The first of the pieces starts at the depth that is given, all others at depth zero. -/
theorem topLevelPieces_eq (depth : Nat) (cs : List Char) :
    ∃ piece pieces depth', topLevelPieces depth cs = piece :: pieces ∧
      endDepth? depth piece = some depth' ∧ (pieces ≠ [] → depth' = 0) ∧ ArePieces pieces := by
  induction cs generalizing depth with
  | nil => exact ⟨[], [], depth, rfl, rfl, fun h => absurd rfl h, by simp, List.Pairwise.nil⟩
  | cons c cs ih =>
    rw [topLevelPieces_cons]
    by_cases hcomma : c = ',' ∧ depth = 0
    · -- Here a piece ends, and what follows starts over at depth zero.
      obtain ⟨piece, pieces, depth', hpieces, hdepth, hlast, hothers⟩ := ih 0
      refine ⟨[], piece :: pieces, depth, ?_, rfl, fun _ => hcomma.2, ?_, ?_⟩
      · rw [if_pos hcomma, hpieces]
      · exact List.forall_mem_cons.2 ⟨⟨depth', hdepth⟩, hothers.whole⟩
      · refine List.pairwise_cons.2 ⟨fun other hother => ?_, hothers.closed⟩
        rw [hdepth, hlast (List.ne_nil_of_mem hother)]
    · obtain ⟨piece, pieces, depth', hpieces, hdepth, hlast, hothers⟩ := ih (depthStep depth c)
      refine ⟨c :: piece, pieces, depth', ?_, ?_, hlast, hothers⟩
      · rw [if_neg hcomma, hpieces, Text.consHead_eq]
      · rw [endDepth?_cons, if_neg hcomma, hdepth]

theorem arePieces_topLevelPieces (cs : List Char) : ArePieces (topLevelPieces 0 cs) := by
  obtain ⟨piece, pieces, depth, hpieces, hdepth, hlast, hothers⟩ := topLevelPieces_eq 0 cs
  rw [hpieces]
  refine ⟨List.forall_mem_cons.2 ⟨⟨depth, hdepth⟩, hothers.whole⟩, ?_⟩
  refine List.pairwise_cons.2 ⟨fun other hother => ?_, hothers.closed⟩
  rw [hdepth, hlast (List.ne_nil_of_mem hother)]

/-- What takes the place of pieces with the same marks, or of none of them, are pieces again. -/
theorem ArePieces.filterMap {pieces : List (List Char)} (h : ArePieces pieces)
    {f : List Char → Option (List Char)}
    (hf : ∀ piece other, f piece = some other → marks other = marks piece) :
    ArePieces (pieces.filterMap f) := by
  have hdepth : ∀ {piece other : List Char}, f piece = some other →
      endDepth? 0 other = endDepth? 0 piece := by
    intro piece other hother
    rw [← endDepth?_marks, hf piece other hother, endDepth?_marks]
  constructor
  · intro other hother
    obtain ⟨piece, hpiece, hsome⟩ := List.mem_filterMap.1 hother
    rw [hdepth hsome]
    exact h.whole piece hpiece
  · refine List.pairwise_filterMap.2 (h.closed.imp fun {piece _} hclosed => ?_)
    intro other hother _ _
    rw [hdepth hother, hclosed]

end RowParity.Sql
