import RowParity.Proofs.Sql.Nesting

/-!
# Splitting loses nothing

The pieces of a text with commas between them are the text again, and there is one more of them than
the text has commas at depth zero (`cuts`); none of them has such a comma itself. A scan that only
notes where the pieces begin and end, counted in bytes (`pieceBounds`), never cuts a character in
two: all its bounds lie between characters, and between them stand the pieces
(`map_slice?_pieceBounds`).
-/

namespace RowParity

/-! ## Slices -/

namespace Text

/-- The part of a text between two places that are counted in bytes, if both of them lie between
characters and they are in order. -/
def slice? (s : String) (bounds : Nat × Nat) : Option String :=
  if h : String.Pos.Raw.IsValid s ⟨bounds.1⟩ ∧ String.Pos.Raw.IsValid s ⟨bounds.2⟩ ∧
      bounds.1 ≤ bounds.2 then
    some (s.slice (s.pos _ h.1) (s.pos _ h.2.1) h.2.2).copy
  else none

theorem slice?_append (before piece after : String) :
    slice? (before ++ piece ++ after) (before.utf8ByteSize, (before ++ piece).utf8ByteSize) =
      some piece := by
  have hstart : String.Pos.Raw.IsValid (before ++ piece ++ after) ⟨before.utf8ByteSize⟩ :=
    String.Pos.Raw.isValid_iff_exists_append.2
      ⟨before, piece ++ after, String.append_assoc .., rfl⟩
  have hstop : String.Pos.Raw.IsValid (before ++ piece ++ after)
      ⟨(before ++ piece).utf8ByteSize⟩ :=
    String.Pos.Raw.isValid_iff_exists_append.2 ⟨before ++ piece, after, rfl, rfl⟩
  have hle : before.utf8ByteSize ≤ (before ++ piece).utf8ByteSize := by
    rw [String.utf8ByteSize_append]
    exact Nat.le_add_right _ _
  have hcopy : ∃ h, ((before ++ piece ++ after).slice (String.pos _ _ hstart)
      (String.pos _ _ hstop) h).copy = piece :=
    String.copy_slice_eq_iff_splits.2
      ⟨before, after, ⟨String.append_assoc .., rfl⟩, ⟨rfl, rfl⟩⟩
  obtain ⟨_, hpiece⟩ := hcopy
  rw [slice?, dif_pos ⟨hstart, hstop, hle⟩]
  exact congrArg some hpiece

/-- The number of bytes of a text. -/
def byteSize (cs : List Char) : Nat :=
  (String.ofList cs).utf8ByteSize

theorem byteSize_concat (cs : List Char) (c : Char) :
    byteSize (cs ++ [c]) = byteSize cs + c.utf8Size := by
  rw [byteSize, String.ofList_append, String.utf8ByteSize_append, ← String.singleton_eq_ofList,
    String.utf8ByteSize_singleton, byteSize]

theorem slice?_ofList (before piece after : List Char) :
    slice? (String.ofList (before ++ piece ++ after)) (byteSize before, byteSize (before ++ piece)) =
      some (String.ofList piece) := by
  have h := slice?_append (String.ofList before) (String.ofList piece) (String.ofList after)
  rwa [← String.ofList_append, ← String.ofList_append] at h

end Text

namespace Sql

/-! ## Commas at depth zero -/

/-- The places of the commas at depth zero, in a text that starts at the given depth. -/
def cuts (depth : Nat) (cs : List Char) : List Nat :=
  (List.range cs.length).filter fun i =>
    cs[i]? = some ',' ∧ (cs.take i).foldl depthStep depth = 0

theorem cuts_cons (depth : Nat) (c : Char) (cs : List Char) :
    cuts depth (c :: cs) =
      (if c = ',' ∧ depth = 0 then [0] else []) ++
        (cuts (depthStep depth c) cs).map Nat.succ := by
  have hothers : (fun i : Nat => decide ((c :: cs)[i]? = some ',' ∧
      ((c :: cs).take i).foldl depthStep depth = 0)) ∘ Nat.succ =
        fun i => decide (cs[i]? = some ',' ∧ (cs.take i).foldl depthStep (depthStep depth c) = 0) :=
    rfl
  unfold cuts
  rw [List.length_cons, List.range_succ_eq_map, List.filter_cons, List.filter_map, hothers]
  by_cases hcomma : c = ',' ∧ depth = 0
  · simp [hcomma]
  · simp [hcomma]

theorem cuts_eq_nil {depth depth' : Nat} {cs : List Char} (h : endDepth? depth cs = some depth') :
    cuts depth cs = [] := by
  induction cs generalizing depth with
  | nil => rfl
  | cons c cs ih =>
    rw [endDepth?_cons] at h
    by_cases hcomma : c = ',' ∧ depth = 0
    · rw [if_pos hcomma] at h
      cases h
    · rw [if_neg hcomma] at h
      rw [cuts_cons, if_neg hcomma, ih h]
      rfl

/-! ## Pieces -/

theorem intercalate_topLevelPieces (depth : Nat) (cs : List Char) :
    [','].intercalate (topLevelPieces depth cs) = cs := by
  induction cs generalizing depth with
  | nil => rfl
  | cons c cs ih =>
    rw [topLevelPieces_cons]
    by_cases hcomma : c = ',' ∧ depth = 0
    · have hrest := ih 0
      obtain ⟨piece, pieces, -, hpieces, -⟩ := topLevelPieces_eq 0 cs
      rw [hpieces] at hrest
      rw [if_pos hcomma, hpieces, List.intercalate_cons_cons, hrest, hcomma.1]
      rfl
    · have hrest := ih (depthStep depth c)
      obtain ⟨piece, pieces, -, hpieces, -⟩ := topLevelPieces_eq (depthStep depth c) cs
      rw [hpieces] at hrest
      rw [if_neg hcomma, hpieces, Text.consHead_eq, List.intercalate_cons_cons_left, hrest]

theorem length_topLevelPieces (depth : Nat) (cs : List Char) :
    (topLevelPieces depth cs).length = 1 + (cuts depth cs).length := by
  induction cs generalizing depth with
  | nil => rfl
  | cons c cs ih =>
    rw [topLevelPieces_cons, cuts_cons, List.length_append, List.length_map]
    by_cases hcomma : c = ',' ∧ depth = 0
    · obtain ⟨rfl, rfl⟩ := hcomma
      have hrest : (topLevelPieces 0 cs).length = 1 + (cuts (depthStep 0 ',') cs).length := ih 0
      rw [if_pos ⟨rfl, rfl⟩, if_pos ⟨rfl, rfl⟩, List.length_cons, hrest, List.length_singleton]
      omega
    · have hrest := ih (depthStep depth c)
      obtain ⟨piece, pieces, -, hpieces, -⟩ := topLevelPieces_eq (depthStep depth c) cs
      rw [hpieces] at hrest
      rw [if_neg hcomma, if_neg hcomma, hpieces, Text.consHead_eq, List.length_nil, Nat.zero_add,
        ← hrest]
      rfl

/-! ## Bounds -/

/-- Where the pieces begin and end, counted in bytes. The scan has come to `offset`, and the piece
that it stands in began at `start`. -/
def pieceBounds : Nat → Nat → Nat → List Char → List (Nat × Nat)
  | start, offset, _, [] => [(start, offset)]
  | start, offset, depth, c :: cs =>
    if c = ',' ∧ depth = 0 then
      (start, offset) :: pieceBounds (offset + 1) (offset + c.utf8Size) 0 cs
    else pieceBounds start (offset + c.utf8Size) (depthStep depth c) cs

/-- What a scan finds from the middle of a text on: it has gone over `before`, and over `pending` in
the piece that it stands in. -/
theorem map_slice?_pieceBounds (before pending : List Char) (depth : Nat) (cs : List Char) :
    (pieceBounds (Text.byteSize before) (Text.byteSize (before ++ pending)) depth cs).map
        (Text.slice? (String.ofList (before ++ pending ++ cs))) =
      (pending.foldr Text.consHead (topLevelPieces depth cs)).map (some ∘ String.ofList) := by
  induction cs generalizing before pending depth with
  | nil =>
    rw [pieceBounds, topLevelPieces, Text.foldr_consHead, List.map_singleton, List.map_singleton,
      Text.slice?_ofList, List.append_nil]
    rfl
  | cons c cs ih =>
    rw [pieceBounds, topLevelPieces_cons]
    by_cases hcomma : c = ',' ∧ depth = 0
    · -- The comma takes one byte, so the next piece begins between characters.
      obtain ⟨rfl, rfl⟩ := hcomma
      have hnext : Text.byteSize (before ++ pending ++ [',']) =
          Text.byteSize (before ++ pending) + 1 := Text.byteSize_concat _ _
      have hrest := ih (before ++ pending ++ [',']) [] 0
      rw [List.append_nil, hnext, List.foldr_nil, ← List.append_cons] at hrest
      rw [if_pos ⟨rfl, rfl⟩, if_pos ⟨rfl, rfl⟩, Text.foldr_consHead, List.append_nil,
        List.map_cons, List.map_cons, Text.slice?_ofList, ← hrest]
      rfl
    · have hrest := ih before (pending ++ [c]) (depthStep depth c)
      rw [← List.append_assoc before, Text.byteSize_concat, List.foldr_append,
        ← List.append_cons] at hrest
      rw [if_neg hcomma, if_neg hcomma, hrest]
      rfl

/-- **Splitting loses nothing.** The pieces with commas between them are the text, there is one more
of them than the text has commas at depth zero, and no piece has a comma at depth zero when it is
scanned on its own. The bounds that the scan cuts at all lie between characters, and what stands
between them are the pieces. -/
theorem topLevelPieces_lossless (body : String) :
    String.intercalate "," ((topLevelPieces 0 body.toList).map String.ofList) = body ∧
      (topLevelPieces 0 body.toList).length = 1 + (cuts 0 body.toList).length ∧
      (∀ piece ∈ topLevelPieces 0 body.toList, cuts 0 piece = []) ∧
      (pieceBounds 0 0 0 body.toList).map (Text.slice? body) =
        (topLevelPieces 0 body.toList).map (some ∘ String.ofList) := by
  refine ⟨?_, length_topLevelPieces 0 body.toList, ?_, ?_⟩
  · refine String.toList_injective ?_
    rw [String.toList_intercalate, List.map_map]
    simp only [Function.comp_def, String.toList_ofList, List.map_id']
    exact intercalate_topLevelPieces 0 body.toList
  · intro piece hpiece
    obtain ⟨depth, hdepth⟩ := (arePieces_topLevelPieces body.toList).whole piece hpiece
    exact cuts_eq_nil hdepth
  · have hslices := map_slice?_pieceBounds [] [] 0 body.toList
    rw [List.append_nil, List.nil_append, String.ofList_toList, List.foldr_nil] at hslices
    exact hslices

/-- A text whose parentheses do not match, with characters of two bytes. -/
theorem topLevelPieces_lossless_unmatched :
    topLevelPieces 0 "é)(,ü),(x,y".toList = ["é)(,ü)".toList, "(x,y".toList] ∧
      pieceBounds 0 0 0 "é)(,ü),(x,y".toList = [(0, 8), (9, 13)] ∧
      cuts 0 "é)(,ü),(x,y".toList = [6] ∧ cuts 0 "(x,y".toList = [] ∧
      Text.slice? "é)(,ü),(x,y" (9, 13) = some "(x,y" := by
  obtain ⟨-, -, hcuts, hslices⟩ := topLevelPieces_lossless "é)(,ü),(x,y"
  have hpieces : topLevelPieces 0 "é)(,ü),(x,y".toList = ["é)(,ü)".toList, "(x,y".toList] := by
    decide
  have hbounds : pieceBounds 0 0 0 "é)(,ü),(x,y".toList = [(0, 8), (9, 13)] := by decide
  refine ⟨hpieces, hbounds, by decide, hcuts _ (by rw [hpieces]; simp), ?_⟩
  rw [hpieces, hbounds] at hslices
  exact (List.cons.inj (List.cons.inj hslices).2).1

end Sql

end RowParity
