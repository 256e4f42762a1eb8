import RowParity.Catalog.Table

/-!
# What classification does not see

Parenthesised groups count for nothing. A balanced group may stand anywhere in a declared text, also
behind a parenthesis that nothing matches, and the type is the same without it.
-/

namespace RowParity.SemanticType

/-- Whether, from the given depth on, every closing parenthesis closes one that is open, and none
is open in the end. -/
def isBalanced : Nat → List Char → Bool
  | depth, [] => depth == 0
  | depth, c :: cs =>
    if c = '(' then isBalanced (depth + 1) cs
    else if c = ')' then depth != 0 && isBalanced (depth - 1) cs
    else isBalanced depth cs

theorem isBalanced_of_forall {cs : List Char} (h : ∀ c ∈ cs, c ≠ '(' ∧ c ≠ ')') :
    isBalanced 0 cs = true := by
  induction cs with
  | nil => rfl
  | cons c cs ih =>
    obtain ⟨hopen, hclose⟩ := h c List.mem_cons_self
    rw [isBalanced, if_neg hopen, if_neg hclose]
    exact ih fun d hd => h d (List.mem_cons_of_mem c hd)

/-- Inside of an open parenthesis, a balanced text leaves nothing behind and comes back to the depth
it started at. -/
theorem outsideParens_balanced_append {inner : Nat} {cs : List Char}
    (h : isBalanced inner cs = true) (depth : Nat) (rest : List Char) :
    outsideParens (inner + (depth + 1)) (cs ++ rest) = outsideParens (depth + 1) rest := by
  -- The text may close what it has opened itself; the parenthesis around it stays open all along.
  induction cs generalizing inner with
  | nil =>
    rw [isBalanced, beq_iff_eq] at h
    rw [h, Nat.zero_add, List.nil_append]
  | cons c cs ih =>
    rw [isBalanced] at h
    rw [List.cons_append, outsideParens]
    by_cases hopen : c = '('
    · rw [if_pos hopen] at h ⊢
      rw [Nat.add_right_comm]
      exact ih h
    by_cases hclose : c = ')'
    · rw [if_neg hopen, if_pos hclose, Bool.and_eq_true] at h
      rw [if_neg hopen, if_pos hclose]
      have hinner : inner ≠ 0 := by simpa using h.1
      have hdepth : inner + (depth + 1) - 1 = inner - 1 + (depth + 1) := by omega
      rw [hdepth]
      exact ih h.2
    · rw [if_neg hopen, if_neg hclose] at h ⊢
      rw [if_neg (by omega)]
      exact ih h

theorem outsideParens_group_append {cs : List Char} (h : isBalanced 0 cs = true) (depth : Nat)
    (rest : List Char) :
    outsideParens depth ('(' :: (cs ++ ')' :: rest)) = outsideParens depth rest := by
  have hinside := outsideParens_balanced_append h depth (')' :: rest)
  rw [Nat.zero_add] at hinside
  rw [outsideParens, if_pos rfl, hinside, outsideParens, if_neg (by decide), if_pos rfl]
  rfl

/-- Texts that leave the same behind at any depth do so at the end of any text. -/
theorem outsideParens_append_congr {rest rest' : List Char}
    (h : ∀ depth, outsideParens depth rest = outsideParens depth rest') (depth : Nat)
    (cs : List Char) : outsideParens depth (cs ++ rest) = outsideParens depth (cs ++ rest') := by
  induction cs generalizing depth with
  | nil => exact h depth
  | cons c cs ih => simp only [List.cons_append, outsideParens, ih]

/-- **Groups count for nothing**, wherever they stand. -/
theorem ofDeclared_append_group {group : String} (h : isBalanced 0 group.toList = true)
    (before after : String) :
    ofDeclared (before ++ "(" ++ group ++ ")" ++ after) = ofDeclared (before ++ after) := by
  have htext : (before ++ "(" ++ group ++ ")" ++ after).toList =
      before.toList ++ '(' :: (group.toList ++ ')' :: after.toList) := by
    simp [String.toList_append]
  have houtside : outsideParens 0 (before ++ "(" ++ group ++ ")" ++ after).toList =
      outsideParens 0 (before ++ after).toList := by
    rw [htext, String.toList_append]
    exact outsideParens_append_congr (fun depth => outsideParens_group_append h depth _) 0 _
  unfold ofDeclared normalized withoutModifiers
  rw [houtside]

end RowParity.SemanticType
