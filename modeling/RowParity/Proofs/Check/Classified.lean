import RowParity.Check.Comparison
import RowParity.Proofs.Catalog.LongestName
import RowParity.Proofs.Text.Lower

/-!
# What makes an error expected

An error is classified by the first pattern of the table that occurs in its text in lower case.
Patterns are ASCII, so one that occurs in a message occurs in every text that holds the message, and
the first one found there stands no later in the table (`BenignPattern.classify?_laws`).
-/

namespace RowParity

namespace BenignPattern

theorem occursIn_iff {p : BenignPattern} {text : List Char} :
    p.occursIn text = true ↔ p.pattern.toList <:+: text :=
  SemanticType.occursIn_iff_isInfix

theorem isSigmaless_pattern : ∀ p ∈ all, Text.IsSigmaless p.pattern.toList := by
  have hchars : (all.all fun p => p.pattern.toList.all fun c => c != 'σ' && c != 'ς') = true := by
    decide +kernel
  intro p hp c hc
  have hc := List.all_eq_true.1 (List.all_eq_true.1 hchars p hp) c hc
  simpa using hc

theorem classify?_eq_none_iff {message : String} :
    classify? message = none ↔
      ∀ p ∈ all, ¬p.pattern.toList <:+: Text.lower message.toList := by
  simp only [classify?, List.find?_eq_none, occursIn_iff]

/-- What holds a member at one place of a list holds the first one no later. -/
theorem exists_find?_le {α : Type} {p : α → Bool} {xs : List α} {i : Nat} (hi : i < xs.length)
    (h : p xs[i] = true) : ∃ j ≤ i, xs.find? p = xs[j]? := by
  refine ⟨xs.findIdx p, Nat.not_lt.1 fun hlt => ?_, List.find?_eq_getElem?_findIdx⟩
  rw [List.not_of_lt_findIdx hlt] at h
  cases h

/-- The message is classified the same or better where more text stands around it. -/
theorem classify?_wrapped {message : String} {i : Nat} (hi : i < all.length)
    (h : classify? message = all[i]?) (front back : String) :
    ∃ j ≤ i, classify? (front ++ message ++ back) = all[j]? := by
  have hfound : all.find? (·.occursIn (Text.lower message.toList)) = some all[i] := by
    rw [← List.getElem?_eq_getElem hi, ← h, classify?]
  have hoccurs := List.find?_some hfound
  have hsigmaless := isSigmaless_pattern all[i] (List.getElem_mem hi)
  refine exists_find?_le hi (occursIn_iff.2 ?_)
  rw [String.toList_append, String.toList_append]
  exact Text.isInfix_lower_wrapped hsigmaless (occursIn_iff.1 hoccurs) _ _

theorem isExpected_wrapped {front message back : String} (h : isExpected message = true) :
    isExpected (front ++ message ++ back) = true := by
  obtain ⟨p, hp⟩ := Option.isSome_iff_exists.1 h
  obtain ⟨i, hi, hindex⟩ := List.getElem_of_mem (List.mem_of_find?_eq_some hp)
  have hposition : classify? message = all[i]? := by
    rw [List.getElem?_eq_getElem hi, hindex, hp]
  obtain ⟨j, hj, hwrapped⟩ := classify?_wrapped hi hposition front back
  rw [isExpected, hwrapped, List.getElem?_eq_getElem (Nat.lt_of_le_of_lt hj hi)]
  rfl

theorem classify?_of_equalIgnoringCase {message message' : String}
    (h : Text.equalIgnoringCase message message' = true) :
    classify? message = classify? message' := by
  have hlower (message : String) :
      Text.lower message.toList = Text.lower (Text.asciiFold message) :=
    (Text.lower_map_toLower message.toList).symm
  unfold classify?
  rw [hlower message, hlower message', eq_of_beq h]

end BenignPattern

theorem Check.isSome_expected?_iff {e : RunError} :
    (expected? e).isSome = true ↔
      e.isDisconnect = false ∧ BenignPattern.isExpected e.decisiveText = true := by
  unfold expected? BenignPattern.isExpected
  cases e.isDisconnect with
  | true => simp
  | false => simp

namespace BenignPattern

/-- **Expected errors are known by what occurs in them.** More text around a message lets it be
classified no later in the table, so it never makes an expected error of a check unexpected. The
case of ASCII letters makes no difference. A message is unexpected exactly if no pattern occurs in
its lower case, and that is the full one of Unicode: each character has its image in its place, a
sigma by its neighbours, and one image may have several characters. -/
theorem classify?_laws :
    (∀ (front message back : String) (i : Nat), i < all.length → classify? message = all[i]? →
      ∃ j ≤ i, classify? (front ++ message ++ back) = all[j]?) ∧
    (∀ e e' : RunError, e'.isDisconnect = false →
      (∃ front back, e'.decisiveText = front ++ e.decisiveText ++ back) →
        (Check.expected? e).isSome = true → (Check.expected? e').isSome = true) ∧
    (∀ message message' : String, Text.equalIgnoringCase message message' = true →
      classify? message = classify? message') ∧
    (∀ message : String, classify? message = none ↔
      ∀ p ∈ all, ¬p.pattern.toList <:+: Text.lower message.toList) ∧
    (∀ cs, Text.IsLowered [] cs (Text.lower cs)) ∧ Text.lowerChar '\u0130' = ['i', '\u0307'] := by
  refine ⟨fun front message back i hi h => classify?_wrapped hi h front back, ?_,
    fun message message' => classify?_of_equalIgnoringCase, fun message => classify?_eq_none_iff,
    Text.lower_isLowered, by decide⟩
  rintro e e' hwell ⟨front, back, htext⟩ hexpected
  rw [Check.isSome_expected?_iff] at hexpected ⊢
  rw [htext]
  exact ⟨hwell, isExpected_wrapped hexpected.2⟩

/-- The dot of a lowered `İ` keeps `invalid` from occurring in the message. -/
theorem classify?_laws_wrapped :
    (classify? "İNVALID: NOT FOUNDΣ" = all[7]? ∧
      ∃ j ≤ 7, classify? ("ΑΣ Syntax Error: " ++ "İNVALID: NOT FOUNDΣ" ++ "Α") = all[j]?) ∧
    ((Check.expected? (.engine (.statement "SELECT id FROM t" "NOT FOUNDΣ"))).isSome = true ∧
      (Check.expected? (.precondition "ΑΣ NOT FOUNDΣΑ")).isSome = true) ∧
    Text.equalIgnoringCase "İnvalid: NOT foundΣ" "İNVALID: not FOUNDΣ" = true ∧
      classify? "İnvalid: NOT foundΣ" = classify? "İNVALID: not FOUNDΣ" := by
  obtain ⟨hwrapped, herrors, hcase, -⟩ := classify?_laws
  have hposition : classify? "İNVALID: NOT FOUNDΣ" = all[7]? := by decide +kernel
  have hexpected : (Check.expected? (.engine (.statement "SELECT id FROM t" "NOT FOUNDΣ"))).isSome =
      true := by decide +kernel
  have htext : (RunError.precondition "ΑΣ NOT FOUNDΣΑ").decisiveText =
      "precondition failed: ΑΣ " ++ "NOT FOUNDΣ" ++ "Α" := by decide +kernel
  have hletters : Text.equalIgnoringCase "İnvalid: NOT foundΣ" "İNVALID: not FOUNDΣ" = true := by
    decide +kernel
  exact ⟨⟨hposition, hwrapped _ _ _ 7 (by decide) hposition⟩,
    ⟨hexpected, herrors _ _ rfl ⟨_, _, htext⟩ hexpected⟩, hletters, hcase _ _ hletters⟩

end BenignPattern

end RowParity
