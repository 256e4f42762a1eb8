import RowParity.Text.Blank

/-!
# Words and blanks

Laws of `trim` and `words`. A text whose first and last characters are no blanks is its own trim,
and every text is its trim with blanks around it, in one way only (`trim_padded`). A text that was
put together from words with single blanks between them falls apart into these words, and the words
of any text are those that stand in it between blanks (`mem_words_iff`).
-/

namespace RowParity.Text

/-- No blank stands in the text. -/
def IsSolid (cs : List Char) : Prop :=
  ∀ c ∈ cs, isBlank c = false

theorem isSolid_iff {cs : List Char} : IsSolid cs ↔ cs.all (!isBlank ·) = true := by
  simp [IsSolid]

instance (cs : List Char) : Decidable (IsSolid cs) :=
  decidable_of_iff _ isSolid_iff.symm

/-! ## Trimming -/

theorem trimStart_cons_of_blank {c : Char} (h : isBlank c = true) (cs : List Char) :
    trimStart (c :: cs) = trimStart cs :=
  List.dropWhile_cons_of_pos h

theorem trimStart_of_head {c : Char} (h : isBlank c = false) (cs : List Char) :
    trimStart (c :: cs) = c :: cs :=
  List.dropWhile_cons_of_neg (by simp [h])

theorem trimEnd_of_last {c : Char} (h : isBlank c = false) (cs : List Char) :
    trimEnd (cs ++ [c]) = cs ++ [c] := by
  rw [trimEnd, List.reverse_append, List.reverse_singleton, List.singleton_append,
    trimStart_of_head h, List.reverse_cons, List.reverse_reverse]

theorem trimEnd_of_getLast? {cs : List Char} (h : ∀ c ∈ cs.getLast?, isBlank c = false) :
    trimEnd cs = cs := by
  rcases List.eq_nil_or_concat cs with rfl | ⟨cs, c, rfl⟩
  · rfl
  · rw [List.concat_eq_append] at h ⊢
    exact trimEnd_of_last (h c List.getLast?_concat) cs

/-- The first and the last character of the text are no blanks. -/
structure IsTight (cs : List Char) : Prop where
  head : ∀ c ∈ cs.head?, isBlank c = false
  last : ∀ c ∈ cs.getLast?, isBlank c = false

theorem IsTight.trimStart_eq {cs : List Char} (h : IsTight cs) : trimStart cs = cs := by
  cases cs with
  | nil => rfl
  | cons c cs => exact trimStart_of_head (h.head c rfl) cs

theorem IsTight.trimEnd_eq {cs : List Char} (h : IsTight cs) : trimEnd cs = cs :=
  trimEnd_of_getLast? h.last

/-- A tight text is its own trim. -/
theorem IsTight.trim_eq {cs : List Char} (h : IsTight cs) : trim cs = cs := by
  rw [trim, h.trimStart_eq, h.trimEnd_eq]

theorem trimStart_head (cs : List Char) : ∀ c ∈ (trimStart cs).head?, isBlank c = false := by
  intro c hc
  have hhead := List.head?_dropWhile_not isBlank cs
  rw [trimStart] at hc
  rw [hc] at hhead
  exact hhead

theorem trimEnd_prefix (cs : List Char) : trimEnd cs <+: cs := by
  have hsuffix : trimStart cs.reverse <:+ cs.reverse := List.dropWhile_suffix isBlank
  rw [trimEnd, ← List.reverse_suffix, List.reverse_reverse]
  exact hsuffix

/-- A trim is tight. -/
theorem trim_isTight (cs : List Char) : IsTight (trim cs) := by
  constructor
  · intro c hc
    obtain ⟨rest, hrest⟩ := trimEnd_prefix (trimStart cs)
    refine trimStart_head cs c ?_
    rw [trim] at hc
    rw [← hrest, List.head?_append, hc, Option.some_or]
    rfl
  · rw [trim, trimEnd, List.getLast?_reverse]
    exact trimStart_head _

/-- Nothing is taken off the end of a text that ends in no blank. -/
theorem trim_eq_trimStart {cs : List Char} (h : ∀ c ∈ cs.getLast?, isBlank c = false) :
    trim cs = trimStart cs := by
  obtain ⟨front, hfront⟩ : trimStart cs <:+ cs := List.dropWhile_suffix isBlank
  refine trimEnd_of_getLast? fun c hc => h c ?_
  rw [← hfront, List.getLast?_append, hc, Option.some_or]
  rfl

/-- Nothing is taken off the start of a text that starts with no blank. -/
theorem trim_eq_trimEnd {cs : List Char} (h : ∀ c ∈ cs.head?, isBlank c = false) :
    trim cs = trimEnd cs := by
  cases cs with
  | nil => rfl
  | cons c cs => rw [trim, trimStart_of_head (h c rfl)]

theorem trim_suffix {cs : List Char} (h : ∀ c ∈ cs.getLast?, isBlank c = false) :
    trim cs <:+ cs := by
  rw [trim_eq_trimStart h]
  exact List.dropWhile_suffix isBlank

theorem trim_ne_nil {cs : List Char} (hne : cs ≠ [])
    (h : ∀ c ∈ cs.getLast?, isBlank c = false) : trim cs ≠ [] := by
  intro hnil
  have hblank : cs.takeWhile isBlank = cs := by
    rw [trim_eq_trimStart h, trimStart] at hnil
    conv => rhs; rw [← List.takeWhile_append_dropWhile (p := isBlank) (l := cs), hnil]
    rw [List.append_nil]
  have hlast : cs.getLast hne ∈ cs.takeWhile isBlank := by
    rw [hblank]
    exact List.getLast_mem hne
  have hsolid := h _ (List.getLast?_eq_some_getLast hne)
  rw [List.all_eq_true.1 List.all_takeWhile _ hlast] at hsolid
  cases hsolid

theorem isTight_iff {cs : List Char} : IsTight cs ↔ trim cs = cs :=
  ⟨fun h => h.trim_eq, fun h => h ▸ trim_isTight cs⟩

theorem IsSolid.isTight {cs : List Char} (h : IsSolid cs) : IsTight cs :=
  ⟨fun c hc => h c (List.mem_of_mem_head? hc), fun c hc => h c (List.mem_of_getLast? hc)⟩

/-! ### Blanks around a text -/

def IsBlanks (cs : List Char) : Prop :=
  ∀ c ∈ cs, isBlank c = true

theorem IsBlanks.append {cs ds : List Char} (hcs : IsBlanks cs) (hds : IsBlanks ds) :
    IsBlanks (cs ++ ds) :=
  List.forall_mem_append.2 ⟨hcs, hds⟩

theorem trimStart_blanks_append {front : List Char} (h : IsBlanks front) (cs : List Char) :
    trimStart (front ++ cs) = trimStart cs :=
  List.dropWhile_append_of_pos h

theorem trimEnd_append_blanks {back : List Char} (h : IsBlanks back) (cs : List Char) :
    trimEnd (cs ++ back) = trimEnd cs := by
  have hback : IsBlanks back.reverse := fun c hc => h c (List.mem_reverse.1 hc)
  rw [trimEnd, List.reverse_append, trimStart_blanks_append hback, trimEnd]

theorem exists_trimStart (cs : List Char) : ∃ front, IsBlanks front ∧ cs = front ++ trimStart cs :=
  ⟨cs.takeWhile isBlank, List.all_eq_true.1 List.all_takeWhile,
    List.takeWhile_append_dropWhile.symm⟩

theorem exists_trimEnd (cs : List Char) : ∃ back, IsBlanks back ∧ cs = trimEnd cs ++ back := by
  obtain ⟨front, hfront, hcs⟩ := exists_trimStart cs.reverse
  refine ⟨front.reverse, fun c hc => hfront c (List.mem_reverse.1 hc), ?_⟩
  rw [trimEnd, ← List.reverse_append, ← hcs, List.reverse_reverse]

/-- Every text is its trim with blanks around it. -/
theorem exists_trim (cs : List Char) :
    ∃ front back, IsBlanks front ∧ IsBlanks back ∧ cs = front ++ trim cs ++ back := by
  obtain ⟨front, hfront, hcs⟩ := exists_trimStart cs
  obtain ⟨back, hback, hrest⟩ := exists_trimEnd (trimStart cs)
  refine ⟨front, back, hfront, hback, ?_⟩
  rw [List.append_assoc, trim, ← hrest, ← hcs]

/-- A tight text is the trim of itself with blanks around it. -/
theorem IsTight.trim_padded {front cs back : List Char} (h : IsTight cs) (hfront : IsBlanks front)
    (hback : IsBlanks back) : trim (front ++ cs ++ back) = cs := by
  rw [trim, List.append_assoc, trimStart_blanks_append hfront]
  cases cs with
  | nil =>
    have hnil := trimStart_blanks_append hback []
    rw [List.append_nil] at hnil
    rw [List.nil_append, hnil]
    rfl
  | cons c cs =>
    rw [List.cons_append, trimStart_of_head (h.head c rfl), ← List.cons_append,
      trimEnd_append_blanks hback, h.trimEnd_eq]

/-- **Blanks around a text do not count.** -/
theorem trim_padded {front back : List Char} (hfront : IsBlanks front) (hback : IsBlanks back)
    (cs : List Char) : trim (front ++ cs ++ back) = trim cs := by
  obtain ⟨front', back', hfront', hback', hcs⟩ := exists_trim cs
  have hpadded : front ++ cs ++ back = front ++ front' ++ trim cs ++ (back' ++ back) := by
    conv => lhs; rw [hcs]
    simp only [List.append_assoc]
  rw [hpadded, (trim_isTight cs).trim_padded (hfront.append hfront') (hback'.append hback)]

/-- What stands between two tight texts does not make the whole any less tight. -/
theorem IsTight.join {cs ds : List Char} (hcs : IsTight cs) (hds : IsTight ds) (hc : cs ≠ [])
    (hd : ds ≠ []) (between : List Char) : IsTight (cs ++ between ++ ds) := by
  constructor
  · rw [List.append_assoc, List.head?_append, List.head?_eq_some_head hc, Option.some_or,
      ← List.head?_eq_some_head hc]
    exact hcs.head
  · rw [List.getLast?_append, List.getLast?_eq_some_getLast hd, Option.some_or,
      ← List.getLast?_eq_some_getLast hd]
    exact hds.last

/-! ## Pieces -/

section Pieces

variable {cut : Char → Bool}

theorem consHead_eq (c : Char) (piece : List Char) (pieces : List (List Char)) :
    consHead c (piece :: pieces) = (c :: piece) :: pieces :=
  rfl

theorem foldr_consHead (cs piece : List Char) (pieces : List (List Char)) :
    cs.foldr consHead (piece :: pieces) = (cs ++ piece) :: pieces := by
  induction cs with
  | nil => rfl
  | cons c cs ih => rw [List.foldr_cons, ih, consHead_eq, List.cons_append]

theorem splitWhere_whole {cs : List Char} (h : ∀ c ∈ cs, cut c = false) :
    splitWhere cut cs = [cs] := by
  induction cs with
  | nil => rfl
  | cons c cs ih =>
    have hcs := ih fun d hd => h d (List.mem_cons_of_mem c hd)
    rw [splitWhere, if_neg (by simp [h c List.mem_cons_self]), hcs, consHead_eq]

theorem exists_splitWhere_eq (cut : Char → Bool) (cs : List Char) :
    ∃ piece pieces, splitWhere cut cs = piece :: pieces := by
  cases cs with
  | nil => exact ⟨[], [], rfl⟩
  | cons c cs =>
    rw [splitWhere]
    split
    · exact ⟨[], _, rfl⟩
    · cases splitWhere cut cs with
      | nil => exact ⟨[c], [], rfl⟩
      | cons piece pieces => exact ⟨c :: piece, pieces, rfl⟩

/-- A text is split at a cut whatever stands around it. -/
theorem splitWhere_append {d : Char} (hd : cut d = true) (cs ds : List Char) :
    splitWhere cut (cs ++ d :: ds) = splitWhere cut cs ++ splitWhere cut ds := by
  induction cs with
  | nil =>
    show splitWhere cut (d :: ds) = [] :: splitWhere cut ds
    rw [splitWhere, if_pos hd]
  | cons c cs ih =>
    rw [List.cons_append, splitWhere, splitWhere, ih]
    split
    · rfl
    · obtain ⟨piece, pieces, hpieces⟩ := exists_splitWhere_eq cut cs
      rw [hpieces]
      rfl

theorem splitWhere_append_cut {cs : List Char} (h : ∀ c ∈ cs, cut c = false) {d : Char}
    (hd : cut d = true) (ds : List Char) :
    splitWhere cut (cs ++ d :: ds) = cs :: splitWhere cut ds := by
  rw [splitWhere_append hd, splitWhere_whole h, List.singleton_append]

/-- The piece stands in the text, with a cut or an end of the text on either side. -/
def StandsIn (cut : Char → Bool) (piece cs : List Char) : Prop :=
  ∃ before after, cs = before ++ piece ++ after ∧ (∀ c ∈ before.getLast?, cut c = true) ∧
    ∀ c ∈ after.head?, cut c = true

theorem StandsIn.append {piece cs ds : List Char} (h : StandsIn cut piece cs)
    (hds : ∀ c ∈ ds.head?, cut c = true) : StandsIn cut piece (cs ++ ds) := by
  obtain ⟨before, after, rfl, hbefore, hafter⟩ := h
  refine ⟨before, after ++ ds, by simp, hbefore, fun c hc => ?_⟩
  cases after with
  | nil => exact hds c hc
  | cons d after => exact hafter c hc

theorem standsIn_of_mem {piece cs : List Char} (h : piece ∈ splitWhere cut cs) :
    (∀ c ∈ piece, cut c = false) ∧ StandsIn cut piece cs := by
  -- By induction on the length: what stands behind the first cut is split like a text of its own.
  induction hlength : cs.length using Nat.strongRecOn generalizing cs with
  | ind n ih =>
    cases hfind : cs.find? cut with
    | none =>
      have hwhole : ∀ c ∈ cs, cut c = false := fun c hc => by
        simpa using List.find?_eq_none.1 hfind c hc
      rw [splitWhere_whole hwhole, List.mem_singleton] at h
      rw [h]
      exact ⟨hwhole, [], [], by simp, by simp, by simp⟩
    | some d =>
      obtain ⟨hd, front, rest, rfl, hfront⟩ := List.find?_eq_some_iff_append.1 hfind
      have hsolid : ∀ c ∈ front, cut c = false := fun c hc => by simpa using hfront c hc
      rw [splitWhere_append_cut hsolid hd, List.mem_cons] at h
      rcases h with rfl | h
      · refine ⟨hsolid, [], d :: rest, rfl, by simp, ?_⟩
        rintro c ⟨⟩
        exact hd
      · rw [List.length_append, List.length_cons] at hlength
        obtain ⟨hpiece, before, after, rfl, hbefore, hafter⟩ := ih rest.length (by omega) h rfl
        refine ⟨hpiece, front ++ d :: before, after, by simp, fun c hc => ?_, hafter⟩
        rw [List.getLast?_append, List.getLast?_cons, Option.some_or] at hc
        cases hc
        cases hlast : before.getLast? with
        | none => exact hd
        | some last => exact hbefore last hlast

theorem mem_splitWhere_of_standsIn {piece cs : List Char} (hpiece : ∀ c ∈ piece, cut c = false)
    (h : StandsIn cut piece cs) : piece ∈ splitWhere cut cs := by
  obtain ⟨before, after, rfl, hbefore, hafter⟩ := h
  have hback : piece ∈ splitWhere cut (piece ++ after) := by
    cases after with
    | nil =>
      rw [List.append_nil, splitWhere_whole hpiece]
      exact List.mem_singleton_self piece
    | cons d after =>
      rw [splitWhere_append_cut hpiece (hafter d rfl)]
      exact List.mem_cons_self
  rcases List.eq_nil_or_concat before with rfl | ⟨before, d, rfl⟩
  · exact hback
  · rw [List.concat_eq_append] at hbefore ⊢
    rw [List.append_assoc, List.append_assoc, List.singleton_append,
      splitWhere_append (hbefore d List.getLast?_concat)]
    exact List.mem_append_right _ hback

end Pieces

/-! ## Words -/

/-- A word: a text that is not empty and holds no blank. -/
structure IsWord (cs : List Char) : Prop where
  ne_nil : cs ≠ []
  solid : IsSolid cs

instance (cs : List Char) : Decidable (IsWord cs) :=
  decidable_of_iff (cs ≠ [] ∧ IsSolid cs) ⟨fun h => ⟨h.1, h.2⟩, fun h => ⟨h.ne_nil, h.solid⟩⟩

theorem IsWord.trimStart_append {w : List Char} (h : IsWord w) (cs : List Char) :
    trimStart (w ++ cs) = w ++ cs := by
  cases w with
  | nil => exact absurd rfl h.ne_nil
  | cons c w => exact trimStart_of_head (h.solid c List.mem_cons_self) (w ++ cs)

/-- The words with single blanks between them. -/
def unwords : List (List Char) → List Char
  | [] => []
  | [w] => w
  | w :: ws => w ++ ' ' :: unwords ws

theorem unwords_cons {ws : List (List Char)} (h : ws ≠ []) (w : List Char) :
    unwords (w :: ws) = w ++ ' ' :: unwords ws := by
  cases ws with
  | nil => exact absurd rfl h
  | cons _ _ => rfl

theorem unwords_append {vs ws : List (List Char)} (hv : vs ≠ []) (hw : ws ≠ []) :
    unwords (vs ++ ws) = unwords vs ++ ' ' :: unwords ws := by
  induction vs with
  | nil => exact absurd rfl hv
  | cons v vs ih =>
    cases vs with
    | nil => exact unwords_cons hw v
    | cons v' vs =>
      rw [List.cons_append, unwords_cons (by simp), ih (List.cons_ne_nil v' vs),
        unwords_cons (List.cons_ne_nil v' vs), List.append_assoc, List.cons_append]

theorem mem_unwords {c : Char} {ws : List (List Char)} (h : c ∈ unwords ws) :
    c = ' ' ∨ ∃ w ∈ ws, c ∈ w := by
  induction ws with
  | nil => cases h
  | cons w ws ih =>
    by_cases hws : ws = []
    · rw [hws] at h
      exact .inr ⟨w, List.mem_cons_self, h⟩
    · rw [unwords_cons hws] at h
      rcases List.mem_append.1 h with hw | hws
      · exact .inr ⟨w, List.mem_cons_self, hw⟩
      · rcases List.mem_cons.1 hws with hblank | hws
        · exact .inl hblank
        · obtain hblank | ⟨v, hv, hc⟩ := ih hws
          · exact .inl hblank
          · exact .inr ⟨v, List.mem_cons_of_mem w hv, hc⟩

theorem words_of_isWord {w : List Char} (h : IsWord w) : words w = [w] := by
  rw [words, splitWhere_whole h.solid]
  simp [h.ne_nil]

/-- **Words stand between blanks.** -/
theorem mem_words_iff {w cs : List Char} : w ∈ words cs ↔ IsWord w ∧ StandsIn isBlank w cs := by
  simp only [words, List.mem_filter, Bool.not_eq_true', List.isEmpty_eq_false_iff]
  constructor
  · rintro ⟨hmem, hne⟩
    obtain ⟨hsolid, hstands⟩ := standsIn_of_mem hmem
    exact ⟨⟨hne, hsolid⟩, hstands⟩
  · rintro ⟨hword, hstands⟩
    exact ⟨mem_splitWhere_of_standsIn hword.solid hstands, hword.ne_nil⟩

theorem words_append_blank {w : List Char} (h : IsWord w) (cs : List Char) :
    words (w ++ ' ' :: cs) = w :: words cs := by
  rw [words, splitWhere_append_cut h.solid (by decide)]
  simp [words, h.ne_nil]

/-- Words that were put together are found again. -/
theorem words_unwords {ws : List (List Char)} (h : ∀ w ∈ ws, IsWord w) :
    words (unwords ws) = ws := by
  induction ws with
  | nil => rfl
  | cons w ws ih =>
    have hw := h w List.mem_cons_self
    by_cases hws : ws = []
    · rw [hws]
      exact words_of_isWord hw
    · rw [unwords_cons hws, words_append_blank hw, ih fun v hv => h v (List.mem_cons_of_mem w hv)]

theorem unwords_ne_nil {ws : List (List Char)} (hne : ws ≠ []) (h : ∀ w ∈ ws, IsWord w) :
    unwords ws ≠ [] := by
  cases ws with
  | nil => exact absurd rfl hne
  | cons w ws =>
    have hw := (h w List.mem_cons_self).ne_nil
    cases ws with
    | nil => exact hw
    | cons _ _ => simp [unwords, hw]

theorem unwords_isTight {ws : List (List Char)} (h : ∀ w ∈ ws, IsWord w) :
    IsTight (unwords ws) := by
  induction ws with
  | nil => exact IsSolid.isTight (by simp [IsSolid, unwords])
  | cons w ws ih =>
    have hw := h w List.mem_cons_self
    have hws : ∀ v ∈ ws, IsWord v := fun v hv => h v (List.mem_cons_of_mem w hv)
    by_cases hne : ws = []
    · rw [hne]
      exact hw.solid.isTight
    · rw [unwords_cons hne, ← List.singleton_append, ← List.append_assoc]
      exact hw.solid.isTight.join (ih hws) hw.ne_nil (unwords_ne_nil hne hws) [' ']

end RowParity.Text
