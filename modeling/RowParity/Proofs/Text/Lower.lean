import RowParity.Proofs.Catalog.Spelling

/-!
# Lower case in context

A letter is lowered on its own, except for the capital sigma, whose form depends on its neighbours
(`Text.lower_isLowered`). The two forms apart, a text is therefore lowered piece by piece
(`Text.leveled_lower_append`), so what occurs in a lowered text and holds no sigma occurs there
whatever stands around the text. The case of ASCII letters makes no difference, not even to a sigma
beside them (`Text.lower_map_toLower`).
-/

namespace RowParity.Text

/-! ## The form of a sigma -/

/-- The text starts with a cased letter, where characters that case ignores are passed over. -/
def OpensCased (cs : List Char) : Prop :=
  ∃ ignored c rest, cs = ignored ++ c :: rest ∧ (∀ d ∈ ignored, isCaseIgnorable d = true) ∧
    isCaseIgnorable c = false ∧ isCased c = true

theorem startsCased_iff {cs : List Char} : startsCased cs = true ↔ OpensCased cs := by
  constructor
  · intro h
    have hsplit := List.takeWhile_append_dropWhile (p := isCaseIgnorable) (l := cs)
    have hhead := List.head?_dropWhile_not isCaseIgnorable cs
    unfold startsCased at h
    cases hrest : cs.dropWhile isCaseIgnorable with
    | nil =>
      rw [hrest] at h
      cases h
    | cons c rest =>
      rw [hrest] at h hsplit hhead
      exact ⟨_, c, rest, hsplit.symm, fun d hd => List.all_eq_true.1 List.all_takeWhile d hd,
        by simpa using hhead, h⟩
  · rintro ⟨ignored, c, rest, rfl, hignored, hc, hcased⟩
    rw [startsCased, List.dropWhile_append_of_pos hignored, List.dropWhile_cons_of_neg (by simp [hc])]
    exact hcased

/-- A word ends between the two texts: a cased letter stands before, and none behind. -/
def EndsWord (before after : List Char) : Prop :=
  OpensCased before.reverse ∧ ¬OpensCased after

/-- What a character is lowered to between two texts. -/
inductive IsImage (before after : List Char) : Char → List Char → Prop
  | final (h : EndsWord before after) : IsImage before after 'Σ' ['ς']
  | medial (h : ¬EndsWord before after) : IsImage before after 'Σ' ['σ']
  | other {c : Char} (h : c ≠ 'Σ') : IsImage before after c (lowerChar c)

/-- What a text is lowered to behind another one, character by character. -/
inductive IsLowered : List Char → List Char → List Char → Prop
  | nil {before : List Char} : IsLowered before [] []
  | cons {before cs image text : List Char} {c : Char} (first : IsImage before cs c image)
      (rest : IsLowered (before ++ [c]) cs text) : IsLowered before (c :: cs) (image ++ text)

/-- What the scan puts in the place of a character. -/
theorem isImage_scanned (before after : List Char) (c : Char) :
    IsImage before after c
      (if c = 'Σ' then [if startsCased before.reverse && !startsCased after then 'ς' else 'σ']
      else lowerChar c) := by
  by_cases hsigma : c = 'Σ'
  · subst hsigma
    rw [if_pos rfl]
    by_cases hend : EndsWord before after
    · have hscan : (startsCased before.reverse && !startsCased after) = true := by
        rw [Bool.and_eq_true, Bool.not_eq_true', ← Bool.not_eq_true, startsCased_iff, startsCased_iff]
        exact hend
      rw [hscan, if_pos rfl]
      exact .final hend
    · have hscan : ¬(startsCased before.reverse && !startsCased after) = true := by
        rw [Bool.and_eq_true, Bool.not_eq_true', ← Bool.not_eq_true, startsCased_iff, startsCased_iff]
        exact hend
      rw [if_neg hscan]
      exact .medial hend
  · rw [if_neg hsigma]
    exact .other hsigma

theorem lowerAfter_isLowered (before cs : List Char) :
    IsLowered before cs (lowerAfter before.reverse cs) := by
  induction cs generalizing before with
  | nil => exact .nil
  | cons c cs ih =>
    have hrest := ih (before ++ [c])
    rw [List.reverse_append, List.reverse_singleton, List.singleton_append] at hrest
    exact .cons (isImage_scanned before cs c) hrest

/-- **Lower case is full Unicode**: every character is replaced by its image in its place. -/
theorem lower_isLowered (cs : List Char) : IsLowered [] cs (lower cs) :=
  lowerAfter_isLowered [] cs

/-! ## Texts up to the form of sigmas -/

/-- The letter with one form for all small sigmas. -/
def leveled (c : Char) : Char :=
  if c = 'ς' then 'σ' else c

theorem leveled_image {before after image : List Char} {c : Char}
    (h : IsImage before after c image) : image.map leveled = (lowerChar c).map leveled := by
  cases h with
  | final => decide
  | medial => decide
  | other => rfl

theorem leveled_of_isLowered {before cs text : List Char} (h : IsLowered before cs text) :
    text.map leveled = cs.flatMap fun c => (lowerChar c).map leveled := by
  induction h with
  | nil => rfl
  | cons first _ ih => rw [List.map_append, leveled_image first, ih, List.flatMap_cons]

/-- Up to the form of sigmas a text is lowered piece by piece. -/
theorem leveled_lower_append (cs ds : List Char) :
    (lower (cs ++ ds)).map leveled = (lower cs).map leveled ++ (lower ds).map leveled := by
  rw [leveled_of_isLowered (lower_isLowered _), leveled_of_isLowered (lower_isLowered cs),
    leveled_of_isLowered (lower_isLowered ds), List.flatMap_append]

theorem leveled_eq_iff {c d : Char} (hmedial : d ≠ 'σ') (hfinal : d ≠ 'ς') :
    leveled c = d ↔ c = d := by
  unfold leveled
  split
  · next h =>
    subst h
    exact ⟨fun h => absurd h.symm hmedial, fun h => absurd h.symm hfinal⟩
  · rfl

/-- The text holds no small sigma, of either form. -/
def IsSigmaless (cs : List Char) : Prop :=
  ∀ c ∈ cs, c ≠ 'σ' ∧ c ≠ 'ς'

theorem map_leveled_eq_iff {cs ds : List Char} (h : IsSigmaless ds) :
    cs.map leveled = ds ↔ cs = ds := by
  induction ds generalizing cs with
  | nil => rw [List.map_eq_nil_iff]
  | cons d ds ih =>
    obtain ⟨⟨hmedial, hfinal⟩, hds⟩ := List.forall_mem_cons.1 h
    cases cs with
    | nil => exact iff_of_false (List.cons_ne_nil d ds).symm (List.cons_ne_nil d ds).symm
    | cons c cs =>
      rw [List.map_cons, List.cons_eq_cons, List.cons_eq_cons, leveled_eq_iff hmedial hfinal, ih hds]

/-- What holds no sigma occurs in a text whatever the form of sigmas there. -/
theorem isInfix_map_leveled {needle cs : List Char} (h : IsSigmaless needle) :
    needle <:+: cs.map leveled ↔ needle <:+: cs := by
  constructor
  · rintro ⟨front, back, hcs⟩
    obtain ⟨front', back', rfl, hfront, -⟩ := List.append_eq_map_iff.1 hcs
    obtain ⟨before, found, rfl, -, hfound⟩ := List.append_eq_map_iff.1 hfront.symm
    exact ⟨before, back', by rw [(map_leveled_eq_iff h).1 hfound]⟩
  · intro hinfix
    have hmap := hinfix.map leveled
    rwa [(map_leveled_eq_iff h).2 rfl] at hmap

/-- What occurs in a lowered text and holds no sigma still occurs if more text stands around it. -/
theorem isInfix_lower_wrapped {needle cs : List Char} (h : IsSigmaless needle)
    (hcs : needle <:+: lower cs) (front back : List Char) :
    needle <:+: lower (front ++ cs ++ back) := by
  rw [← isInfix_map_leveled h] at hcs ⊢
  rw [leveled_lower_append, leveled_lower_append]
  exact hcs.trans (List.infix_append _ _ _)

/-! ## The case of ASCII letters -/

theorem isCased_of_isAlpha {c : Char} (h : c.isAlpha = true) : isCased c = true := by
  have hupper : (0x41, 0x5A) ∈ casedRanges := List.mem_cons_self
  have hlower : (0x61, 0x7A) ∈ casedRanges := List.mem_cons_of_mem _ List.mem_cons_self
  refine List.any_eq_true.2 ?_
  rcases Sql.toNat_cases_of_isAlpha h with hcode | hcode
  · exact ⟨_, hupper, by simpa using hcode⟩
  · exact ⟨_, hlower, by simpa using hcode⟩

/-- No ASCII letter is passed over. -/
theorem caseIgnorableRanges_letterless : ∀ range ∈ caseIgnorableRanges,
    range.2 < 65 ∨ (90 < range.1 ∧ range.2 < 97) ∨ 122 < range.1 := by
  decide +kernel

theorem isCaseIgnorable_of_isAlpha {c : Char} (h : c.isAlpha = true) :
    isCaseIgnorable c = false := by
  have hcode := Sql.toNat_cases_of_isAlpha h
  refine List.any_eq_false.2 fun range hrange => ?_
  have hletterless := caseIgnorableRanges_letterless range hrange
  simp only [Bool.and_eq_true, decide_eq_true_eq]
  omega

theorem isCased_toLower (c : Char) : isCased c.toLower = isCased c := by
  rcases toLower_eq_or c with hsame | ⟨hupper, hlower⟩
  · rw [hsame]
  · rw [isCased_of_isAlpha hupper, isCased_of_isAlpha hlower]

theorem isCaseIgnorable_toLower (c : Char) : isCaseIgnorable c.toLower = isCaseIgnorable c :=
  toLower_of_letterless (fun _ => isCaseIgnorable_of_isAlpha) c

theorem startsCased_map_toLower (cs : List Char) :
    startsCased (cs.map Char.toLower) = startsCased cs := by
  have hignorable : isCaseIgnorable ∘ Char.toLower = isCaseIgnorable :=
    funext isCaseIgnorable_toLower
  have hcased : isCased ∘ Char.toLower = isCased := funext isCased_toLower
  rw [startsCased, List.dropWhile_map, hignorable, List.head?_map, Option.map_map, hcased,
    startsCased]

theorem lowerChar_toLower (c : Char) : lowerChar c.toLower = lowerChar c := by
  rcases toLower_eq_or c with hsame | ⟨hupper, hlower⟩
  · rw [hsame]
  · have hcode := Sql.toNat_of_isAlpha hupper
    have hcode' := Sql.toNat_of_isAlpha hlower
    rw [lowerChar, lowerChar, if_pos (by omega), if_pos (by omega), Char.toLower_toLower_eq_toLower]

theorem lowerAfter_map_toLower (before cs : List Char) :
    lowerAfter (before.map Char.toLower) (cs.map Char.toLower) = lowerAfter before cs := by
  induction cs generalizing before with
  | nil => rfl
  | cons c cs ih =>
    have hrest := ih (c :: before)
    rw [List.map_cons] at hrest
    simp only [List.map_cons, lowerAfter, hrest, startsCased_map_toLower, lowerChar_toLower,
      toLower_eq_iff (show ('Σ').isAlpha = false by decide)]

/-- The case of ASCII letters makes no difference to the lower case of a text. -/
theorem lower_map_toLower (cs : List Char) : lower (cs.map Char.toLower) = lower cs :=
  lowerAfter_map_toLower [] cs

end RowParity.Text
