import Mathlib
import RowParity.Proofs.Catalog.Classification
import RowParity.Proofs.Sql.Token

/-!
# Spellings of a type

Declared texts that differ in parenthesised groups, in the case of ASCII letters or in the blanks
around them are spellings of one type (`ofDeclared_spelling`). Taking the groups and the blanks away
leaves a text without parentheses, on which doing it again changes nothing.
-/

namespace RowParity

namespace SemanticType

/-! ## Groups -/

/-- Every parenthesis in the text has its partner: no front of the text closes more than it opens,
and in the end all are closed. -/
structure IsMatched (cs : List Char) : Prop where
  closed : cs.count '(' = cs.count ')'
  front_le : ∀ front, front <+: cs → front.count ')' ≤ front.count '('

/-- What stands behind open parentheses may close these as well. -/
theorem isBalanced_of_fronts {depth : Nat} {cs : List Char}
    (hclosed : depth + cs.count '(' = cs.count ')')
    (hfronts : ∀ front, front <+: cs → front.count ')' ≤ depth + front.count '(') :
    isBalanced depth cs = true := by
  induction cs generalizing depth with
  | nil =>
    have hdepth : depth = 0 := hclosed
    rw [isBalanced, hdepth]
    rfl
  | cons c cs ih =>
    have hrest : ∀ front, front <+: cs →
        (c :: front).count ')' ≤ depth + (c :: front).count '(' := fun front hfront =>
      hfronts (c :: front) (List.cons_prefix_cons.2 ⟨rfl, hfront⟩)
    simp only [List.count_cons, beq_iff_eq] at hclosed hrest
    rw [isBalanced]
    by_cases hopen : c = '('
    · have hclose : c ≠ ')' := by
        rintro rfl
        exact absurd hopen (by decide)
      simp only [if_pos hopen, if_neg hclose] at hclosed hrest
      rw [if_pos hopen]
      exact ih (by omega) fun front hfront => by
        have hfront := hrest front hfront
        omega
    by_cases hclose : c = ')'
    · simp only [if_neg hopen, if_pos hclose] at hclosed hrest
      have hdepth : depth ≠ 0 := by
        have hfirst := hrest [] List.nil_prefix
        simp only [List.count_nil] at hfirst
        omega
      rw [if_neg hopen, if_pos hclose, bne_iff_ne.2 hdepth, Bool.true_and]
      exact ih (by omega) fun front hfront => by
        have hfront := hrest front hfront
        omega
    · simp only [if_neg hopen, if_neg hclose, Nat.add_zero] at hclosed hrest
      rw [if_neg hopen, if_neg hclose]
      exact ih hclosed hrest

theorem IsMatched.isBalanced {cs : List Char} (h : IsMatched cs) : isBalanced 0 cs = true :=
  isBalanced_of_fronts (by rw [Nat.zero_add]; exact h.closed)
    fun front hfront => by rw [Nat.zero_add]; exact h.front_le front hfront

/-! ## Text without parentheses -/

theorem not_mem_outsideParens (depth : Nat) (cs : List Char) :
    '(' ∉ outsideParens depth cs ∧ ')' ∉ outsideParens depth cs := by
  induction cs generalizing depth with
  | nil => exact ⟨List.not_mem_nil, List.not_mem_nil⟩
  | cons c cs ih =>
    rw [outsideParens]
    split
    · exact ih _
    · next hopen =>
      split
      · exact ih _
      · next hclose =>
        split
        · exact ⟨List.not_mem_cons_of_ne_of_not_mem (Ne.symm hopen) (ih 0).1,
            List.not_mem_cons_of_ne_of_not_mem (Ne.symm hclose) (ih 0).2⟩
        · exact ih _

/-- At depth zero a text without parentheses is kept. -/
theorem outsideParens_append {front : List Char} (h : '(' ∉ front ∧ ')' ∉ front)
    (cs : List Char) : outsideParens 0 (front ++ cs) = front ++ outsideParens 0 cs := by
  obtain ⟨hopen, hclose⟩ := h
  induction front with
  | nil => rfl
  | cons c front ih =>
    rw [List.mem_cons, not_or] at hopen hclose
    rw [List.cons_append, outsideParens, if_neg (Ne.symm hopen.1), if_neg (Ne.symm hclose.1),
      if_pos rfl, ih hopen.2 hclose.2, List.cons_append]

theorem outsideParens_eq_self {cs : List Char} (h : '(' ∉ cs ∧ ')' ∉ cs) :
    outsideParens 0 cs = cs := by
  have happend := outsideParens_append h []
  rwa [List.append_nil, outsideParens, List.append_nil] at happend

theorem outsideParens_sublist (depth : Nat) (cs : List Char) :
    (outsideParens depth cs).Sublist cs := by
  induction cs generalizing depth with
  | nil => exact .slnil
  | cons c cs ih =>
    rw [outsideParens]
    split
    · exact (ih _).cons c
    · split
      · exact (ih _).cons c
      · split
        · exact (ih 0).cons_cons c
        · exact (ih _).cons c

/-- What is added behind a text adds some of its own characters to what is kept. -/
theorem exists_outsideParens_append (depth : Nat) (cs back : List Char) :
    ∃ kept, kept.Sublist back ∧
      outsideParens depth (cs ++ back) = outsideParens depth cs ++ kept := by
  induction cs generalizing depth with
  | nil => exact ⟨_, outsideParens_sublist depth back, rfl⟩
  | cons c cs ih =>
    rw [List.cons_append, outsideParens, outsideParens]
    split
    · exact ih _
    · split
      · exact ih _
      · split
        · obtain ⟨kept, hkept, hcs⟩ := ih 0
          exact ⟨kept, hkept, by rw [hcs, List.cons_append]⟩
        · exact ih _

end SemanticType

/-! ## Letter case -/

namespace Text

theorem toLower_eq_or (c : Char) :
    c.toLower = c ∨ (c.isAlpha = true ∧ c.toLower.isAlpha = true) := by
  by_cases hupper : c.isUpper = true
  · have halpha : c.isAlpha = true := by rw [Char.isAlpha, hupper, Bool.true_or]
    exact .inr ⟨halpha, by rw [Char.isAlpha_toLower_eq_isAlpha, halpha]⟩
  · exact .inl (Char.toLower_eq_of_not_isUpper hupper)

/-- What no letter has does not depend on letter case. -/
theorem toLower_of_letterless {p : Char → Bool} (h : ∀ c, c.isAlpha = true → p c = false)
    (c : Char) : p c.toLower = p c := by
  rcases toLower_eq_or c with hsame | ⟨hupper, hlower⟩
  · rw [hsame]
  · rw [h c hupper, h _ hlower]

theorem isBlank_toLower (c : Char) : isBlank c.toLower = isBlank c :=
  toLower_of_letterless (fun _ h => Sql.isBlank_of_isWordChar
    (Sql.isWordChar_of_isLetter (by rw [Sql.isLetter, h, Bool.true_or]))) c

theorem toLower_eq_iff {mark : Char} (h : mark.isAlpha = false) (c : Char) :
    c.toLower = mark ↔ c = mark := by
  have hmark := toLower_of_letterless (p := (· == mark)) (fun c hc => by
    rw [beq_eq_false_iff_ne]
    rintro rfl
    rw [h] at hc
    cases hc) c
  rw [← beq_iff_eq, hmark, beq_iff_eq]

theorem trimStart_map_toLower (cs : List Char) :
    trimStart (cs.map Char.toLower) = (trimStart cs).map Char.toLower := by
  have hblank : isBlank ∘ Char.toLower = isBlank := funext isBlank_toLower
  rw [trimStart, List.dropWhile_map, hblank, trimStart]

theorem trim_map_toLower (cs : List Char) :
    trim (cs.map Char.toLower) = (trim cs).map Char.toLower := by
  simp only [trim, trimEnd, trimStart_map_toLower, ← List.map_reverse]

theorem upperChar_toLower (c : Char) : upperChar c.toLower = upperChar c := by
  rcases toLower_eq_or c with hsame | ⟨hupper, hlower⟩
  · rw [hsame]
  · have hcode := Sql.toNat_of_isAlpha hupper
    have hcode' := Sql.toNat_of_isAlpha hlower
    rw [upperChar, upperChar, if_pos (by omega), if_pos (by omega),
      Char.toUpper_toLower_eq_toUpper]

theorem upper_map_toLower (cs : List Char) : upper (cs.map Char.toLower) = upper cs := by
  simp only [upper, List.flatMap_map, upperChar_toLower]

end Text

namespace SemanticType

theorem outsideParens_map_toLower (depth : Nat) (cs : List Char) :
    outsideParens depth (cs.map Char.toLower) = (outsideParens depth cs).map Char.toLower := by
  have hopen : ('(').isAlpha = false := by decide
  have hclose : (')').isAlpha = false := by decide
  induction cs generalizing depth with
  | nil => rfl
  | cons c cs ih =>
    simp only [List.map_cons, outsideParens, Text.toLower_eq_iff hopen, Text.toLower_eq_iff hclose,
      ih, apply_ite (List.map Char.toLower)]

/-! ## Spellings -/

theorem ofDeclared_of_normalized {declared spelled : String}
    (h : normalized declared = normalized spelled) : ofDeclared declared = ofDeclared spelled := by
  unfold ofDeclared
  rw [h]

/-- The text that names are looked for in is that of the lower case. -/
theorem normalized_eq_upper (declared : String) :
    normalized declared =
      Text.upper (Text.trim (outsideParens 0 (Text.asciiFold declared))) := by
  rw [normalized, withoutModifiers, Text.asciiFold, outsideParens_map_toLower,
    Text.trim_map_toLower, Text.upper_map_toLower]

theorem ofDeclared_of_equalIgnoringCase {declared spelled : String}
    (h : Text.equalIgnoringCase declared spelled = true) :
    ofDeclared declared = ofDeclared spelled := by
  refine ofDeclared_of_normalized ?_
  rw [normalized_eq_upper, normalized_eq_upper, eq_of_beq h]

theorem not_mem_blanks {cs : List Char} (h : Text.IsBlanks cs) : '(' ∉ cs ∧ ')' ∉ cs :=
  ⟨fun hmem => absurd (h _ hmem) (by decide), fun hmem => absurd (h _ hmem) (by decide)⟩

theorem withoutModifiers_padded {front back : String} (hfront : Text.IsBlanks front.toList)
    (hback : Text.IsBlanks back.toList) (declared : String) :
    withoutModifiers (front ++ declared ++ back) = withoutModifiers declared := by
  obtain ⟨kept, hkept, happend⟩ := exists_outsideParens_append 0 declared.toList back.toList
  have hblanks : Text.IsBlanks kept := fun c hc => hback c (hkept.subset hc)
  rw [withoutModifiers, String.toList_append, String.toList_append, List.append_assoc,
    outsideParens_append (not_mem_blanks hfront), happend, ← List.append_assoc,
    Text.trim_padded hfront hblanks, withoutModifiers]

theorem not_mem_withoutModifiers (declared : String) :
    '(' ∉ withoutModifiers declared ∧ ')' ∉ withoutModifiers declared := by
  obtain ⟨front, back, -, -, htrim⟩ := Text.exists_trim (outsideParens 0 declared.toList)
  have hkept : ∀ c ∈ withoutModifiers declared, c ∈ outsideParens 0 declared.toList := by
    intro c hc
    rw [htrim]
    exact List.mem_append_left _ (List.mem_append_right _ hc)
  obtain ⟨hopen, hclose⟩ := not_mem_outsideParens 0 declared.toList
  exact ⟨mt (hkept _) hopen, mt (hkept _) hclose⟩

theorem withoutModifiers_idempotent (declared : String) :
    withoutModifiers (String.ofList (withoutModifiers declared)) = withoutModifiers declared := by
  conv => lhs; rw [withoutModifiers, String.toList_ofList]
  rw [outsideParens_eq_self (not_mem_withoutModifiers declared)]
  exact (Text.trim_isTight _).trim_eq

/-- **A type may be spelled in many ways.** A group whose parentheses are matched counts for nothing
wherever it stands, and neither do the case of ASCII letters and the blanks around the text. What is
left without groups and blanks has no parenthesis and stays as it is. -/
theorem ofDeclared_spelling :
    (∀ before group after : String, IsMatched group.toList →
      ofDeclared (before ++ "(" ++ group ++ ")" ++ after) = ofDeclared (before ++ after)) ∧
    (∀ declared spelled : String, Text.equalIgnoringCase declared spelled = true →
      ofDeclared declared = ofDeclared spelled) ∧
    (∀ front declared back : String, Text.IsBlanks front.toList → Text.IsBlanks back.toList →
      ofDeclared (front ++ declared ++ back) = ofDeclared declared) ∧
    ∀ declared : String,
      withoutModifiers (String.ofList (withoutModifiers declared)) = withoutModifiers declared ∧
        '(' ∉ withoutModifiers declared ∧ ')' ∉ withoutModifiers declared := by
  refine ⟨fun before group after hgroup => ?_, fun _ _ => ofDeclared_of_equalIgnoringCase,
    fun front declared back hfront hback => ?_, fun declared => ?_⟩
  · exact ofDeclared_append_group hgroup.isBalanced before after
  · refine ofDeclared_of_normalized ?_
    rw [normalized, withoutModifiers_padded hfront hback, normalized]
  · exact ⟨withoutModifiers_idempotent declared, not_mem_withoutModifiers declared⟩

theorem ofDeclared_spelling_scattered :
    (IsMatched "10,(2)".toList ∧ Text.equalIgnoringCase "vArChAr)" "VaRcHaR)" = true ∧
      Text.IsBlanks "\t ".toList ∧ Text.IsBlanks "\u00a0".toList) ∧
    ofDeclared (")num" ++ "(" ++ "10,(2)" ++ ")" ++ "eric(") = ofDeclared (")num" ++ "eric(") ∧
    ofDeclared "vArChAr)" = ofDeclared "VaRcHaR)" ∧
    ofDeclared ("\t " ++ ") date" ++ "\u00a0") = ofDeclared ") date" := by
  have hmatched : IsMatched "10,(2)".toList := by
    have hfronts : ∀ front ∈ "10,(2)".toList.inits, front.count ')' ≤ front.count '(' := by decide
    exact ⟨by decide, fun front hfront => hfronts front ((List.mem_inits _ _).2 hfront)⟩
  have hcase : Text.equalIgnoringCase "vArChAr)" "VaRcHaR)" = true := by decide
  have hfront : Text.IsBlanks "\t ".toList := List.all_eq_true.1 (by decide)
  have hback : Text.IsBlanks "\u00a0".toList := List.all_eq_true.1 (by decide)
  obtain ⟨hgroup, hletters, hblanks, -⟩ := ofDeclared_spelling
  exact ⟨⟨hmatched, hcase, hfront, hback⟩, hgroup _ _ _ hmatched, hletters _ _ hcase,
    hblanks _ _ _ hfront hback⟩

end SemanticType

end RowParity
