import Mathlib.Data.List.Infix
import RowParity.Catalog.SemanticType

/-!
# Types are sorted by their longest name

What a declared text is sorted by, said without a scan. A character counts if every parenthesis that
was opened before it is closed before it (`outsideGroups`), the scan by depth keeps the same ones
(`outsideParens_eq`), and the ordered rules find the longest name, the first one in order among
names of the same length (`ofDeclared_longest`).
-/

namespace RowParity.SemanticType

/-! ## Outside of groups -/

/-- Every parenthesis opened in the text is closed in it: however much of its end is looked at, that
holds no more opening than closing ones. -/
def isSettled (before : List Char) : Bool :=
  before.tails.all fun stretch => stretch.count '(' ≤ stretch.count ')'

/-- The characters outside of parenthesised groups: they are no parentheses themselves, and what
stands before them is settled. -/
def outsideGroups (cs : List Char) : List Char :=
  (cs.zipIdx.filter fun place =>
    place.1 != '(' && place.1 != ')' && isSettled (cs.take place.2)).map Prod.fst

/-- The depth is the largest surplus of opening parentheses at the end of the text. -/
structure EndsAtDepth (before : List Char) (depth : Nat) : Prop where
  bound : ∀ stretch, stretch <:+ before → stretch.count '(' ≤ stretch.count ')' + depth
  reached : ∃ stretch, stretch <:+ before ∧ stretch.count '(' = stretch.count ')' + depth

namespace EndsAtDepth

variable {before : List Char} {depth : Nat}

theorem nil : EndsAtDepth [] 0 where
  bound stretch h := by rw [List.suffix_nil.1 h]; exact Nat.zero_le _
  reached := ⟨[], List.nil_suffix, rfl⟩

theorem isSettled_iff (h : EndsAtDepth before depth) : isSettled before = true ↔ depth = 0 := by
  simp only [isSettled, List.all_eq_true, List.mem_tails, decide_eq_true_eq]
  constructor
  · intro hsettled
    obtain ⟨stretch, hstretch, hsurplus⟩ := h.reached
    have hnone := hsettled stretch hstretch
    omega
  · intro hdepth stretch hstretch
    have hbound := h.bound stretch hstretch
    omega

/-- How the largest surplus changes with one more character. -/
theorem concat (h : EndsAtDepth before depth) {c : Char} {depth' : Nat}
    (hbound : [c].count '(' + depth ≤ [c].count ')' + depth')
    (hreached : depth' = 0 ∨ [c].count '(' + depth = [c].count ')' + depth') :
    EndsAtDepth (before ++ [c]) depth' where
  bound stretch hstretch := by
    rcases List.suffix_concat_iff.1 hstretch with rfl | ⟨front, rfl, hfront⟩
    · exact Nat.zero_le _
    · have hold := h.bound front hfront
      rw [List.count_append, List.count_append]
      omega
  reached := by
    rcases hreached with rfl | hsame
    · exact ⟨[], List.nil_suffix, rfl⟩
    · obtain ⟨front, hfront, hsurplus⟩ := h.reached
      refine ⟨front ++ [c], List.suffix_concat_iff.2 (.inr ⟨front, rfl, hfront⟩), ?_⟩
      rw [List.count_append, List.count_append]
      omega

theorem opening (h : EndsAtDepth before depth) : EndsAtDepth (before ++ ['(']) (depth + 1) := by
  have hopen : ['('].count '(' = 1 := rfl
  have hclose : ['('].count ')' = 0 := rfl
  exact h.concat (by omega) (by omega)

theorem closing (h : EndsAtDepth before depth) : EndsAtDepth (before ++ [')']) (depth - 1) := by
  have hopen : [')'].count '(' = 0 := rfl
  have hclose : [')'].count ')' = 1 := rfl
  exact h.concat (by omega) (by omega)

theorem other (h : EndsAtDepth before depth) {c : Char} (hopen : c ≠ '(') (hclose : c ≠ ')') :
    EndsAtDepth (before ++ [c]) depth := by
  have hopened : [c].count '(' = 0 := List.count_eq_zero.2 (by simp [hopen.symm])
  have hclosed : [c].count ')' = 0 := List.count_eq_zero.2 (by simp [hclose.symm])
  exact h.concat (by omega) (by omega)

end EndsAtDepth

/-- The part of a text that counts, where the scan has come to `before`. -/
def outsideFrom (before cs : List Char) : List Char :=
  ((cs.zipIdx before.length).filter fun place =>
    place.1 != '(' && place.1 != ')' && isSettled ((before ++ cs).take place.2)).map Prod.fst

theorem outsideFrom_cons (before : List Char) (c : Char) (cs : List Char) :
    outsideFrom before (c :: cs) =
      if c != '(' && c != ')' && isSettled before then c :: outsideFrom (before ++ [c]) cs
      else outsideFrom (before ++ [c]) cs := by
  have hrest : before ++ c :: cs = before ++ [c] ++ cs := by simp
  have hlength : before.length + 1 = (before ++ [c]).length := by simp
  have hfirst : (before ++ c :: cs).take before.length = before := List.take_left
  unfold outsideFrom
  rw [List.zipIdx_cons, List.filter_cons, hfirst, hrest, hlength]
  split
  · rfl
  · rfl

/-- **The scan keeps what stands outside of groups.** -/
theorem outsideParens_eq_outsideFrom {before : List Char} {depth : Nat}
    (h : EndsAtDepth before depth) (cs : List Char) :
    outsideParens depth cs = outsideFrom before cs := by
  induction cs generalizing before depth with
  | nil => rfl
  | cons c cs ih =>
    rw [outsideParens, outsideFrom_cons]
    by_cases hopen : c = '('
    · rw [if_pos hopen, hopen, ih h.opening]
      rfl
    by_cases hclose : c = ')'
    · rw [if_neg hopen, if_pos hclose, hclose, ih h.closing]
      rfl
    have hothers := ih (h.other hopen hclose)
    rw [if_neg hopen, if_neg hclose]
    by_cases hdepth : depth = 0
    · rw [if_pos hdepth, if_pos (by simp [hopen, hclose, h.isSettled_iff, hdepth]), ← hothers,
        hdepth]
    · rw [if_neg hdepth, if_neg (by simp [hopen, hclose, h.isSettled_iff, hdepth]), ← hothers]

theorem outsideParens_eq (cs : List Char) : outsideParens 0 cs = outsideGroups cs :=
  outsideParens_eq_outsideFrom .nil cs

/-! ## Names -/

/-- The text that names are looked for in: what stands outside of groups, without the blanks around
it and in upper case. -/
def outerText (declared : String) : List Char :=
  Text.upper (Text.trim (outsideGroups declared.toList))

theorem normalized_eq (declared : String) : normalized declared = outerText declared := by
  rw [normalized, withoutModifiers, outsideParens_eq, outerText]

/-- The name of the type occurs in the text. -/
def OccursIn (ty : SemanticType) (text : List Char) : Prop :=
  ty.sqlName.toList <:+: text

/-- Of the names in the text, that of the type is a longest one, and the first of these in the order
of the rules. -/
structure IsLongestIn (ty : SemanticType) (text : List Char) : Prop where
  occurs : ty.OccursIn text
  longest : ∀ other : SemanticType, other.OccursIn text →
    other.sqlName.length ≤ ty.sqlName.length
  first : ∀ other : SemanticType, other.OccursIn text →
    other.sqlName.length = ty.sqlName.length → named.idxOf ty ≤ named.idxOf other

/-- What a text without any name is taken for. -/
def guessed (text : List Char) : SemanticType :=
  if "INT".toList <:+: text then integer
  else if "DEC".toList <:+: text then decimal
  else if "BOOL".toList <:+: text then boolean
  else varchar

theorem occursIn_iff_isInfix {needle cs : List Char} :
    Text.occursIn needle cs = true ↔ needle <:+: cs := by
  rw [Text.occursIn_iff]
  exact exists_congr fun _ => exists_congr fun _ => eq_comm

theorem mem_named (ty : SemanticType) : ty ∈ named := by
  cases ty <;> decide

/-- Longer names stand before shorter ones. -/
theorem named_descending :
    named.Pairwise fun ty other => other.sqlName.length ≤ ty.sqlName.length := by
  decide

/-- The first name found is the longest. -/
theorem isLongestIn_of_find? {text : List Char} {ty : SemanticType}
    (h : named.find? (fun ty => Text.occursIn ty.sqlName.toList text) = some ty) :
    ty.IsLongestIn text := by
  obtain ⟨hty, before, after, hnamed, hbefore⟩ := List.find?_eq_some_iff_append.1 h
  have hlater : ∀ other : SemanticType, other.OccursIn text → other ∉ before := by
    intro other hoccurs hother
    have hmissing := hbefore other hother
    rw [occursIn_iff_isInfix.2 hoccurs] at hmissing
    cases hmissing
  have hfound : ty.OccursIn text := occursIn_iff_isInfix.1 hty
  refine ⟨hfound, fun other hoccurs => ?_, fun other hoccurs _ => ?_⟩
  · have hmem := mem_named other
    have hsorted := named_descending
    rw [hnamed, List.mem_append, List.mem_cons] at hmem
    rw [hnamed, List.pairwise_append, List.pairwise_cons] at hsorted
    rcases hmem with hother | rfl | hother
    · exact absurd hother (hlater other hoccurs)
    · exact Nat.le_refl _
    · exact hsorted.2.1.1 other hother
  · rw [hnamed, List.idxOf_append_of_notMem (hlater ty hfound),
      List.idxOf_append_of_notMem (hlater other hoccurs), List.idxOf_cons_self]
    exact Nat.le_add_right _ _

/-- What the first rule whose name or fragment occurs decides. -/
def decided (rules : List (String × SemanticType)) (text : List Char) : SemanticType :=
  ((rules.find? fun rule => Text.occursIn rule.1.toList text).map Prod.snd).getD varchar

theorem ofDeclared_eq (declared : String) :
    ofDeclared declared = decided rules (normalized declared) := by
  unfold ofDeclared decided
  dsimp only
  cases rules.find? fun rule => Text.occursIn rule.1.toList (normalized declared) with
  | none => rfl
  | some rule => rfl

theorem decided_cons (rule : String × SemanticType) (rest : List (String × SemanticType))
    (text : List Char) :
    decided (rule :: rest) text =
      if rule.1.toList <:+: text then rule.2 else decided rest text := by
  simp only [decided, List.find?_cons, ← occursIn_iff_isInfix]
  cases Text.occursIn rule.1.toList text with
  | true => rfl
  | false => rfl

/-- The fragments `CHAR` and `TEXT` decide what a text without any fragment is taken for. -/
theorem decided_fragments (text : List Char) : decided fragments text = guessed text := by
  have hnone : decided [] text = varchar := rfl
  simp only [fragments, decided_cons, hnone, ite_self, guessed]

/-- Names are tried first, and fragments only if no name occurs. -/
theorem decided_rules (text : List Char) :
    decided rules text =
      (named.find? fun ty => Text.occursIn ty.sqlName.toList text).getD
        (decided fragments text) := by
  rw [decided, rules, List.find?_append, List.find?_map, Function.comp_def]
  cases named.find? fun ty => Text.occursIn ty.sqlName.toList text with
  | none => rfl
  | some ty => rfl

/-- **Declared texts are sorted by the longest name.** If any name occurs outside of groups, the
type is one whose name occurs there and is the longest, the first in order among names of that
length. If none does, the type is guessed from a few fragments. -/
theorem ofDeclared_longest (declared : String) :
    ((∃ ty : SemanticType, ty.OccursIn (outerText declared)) →
      (ofDeclared declared).IsLongestIn (outerText declared)) ∧
    ((∀ ty : SemanticType, ¬ty.OccursIn (outerText declared)) →
      ofDeclared declared = guessed (outerText declared)) := by
  rw [← normalized_eq, ofDeclared_eq, decided_rules]
  cases hfind : named.find? fun ty => Text.occursIn ty.sqlName.toList (normalized declared) with
  | none =>
    have hnone : ∀ ty : SemanticType, ¬ty.OccursIn (normalized declared) := fun ty hty =>
      List.find?_eq_none.1 hfind ty (mem_named ty) (occursIn_iff_isInfix.2 hty)
    exact ⟨fun ⟨ty, hty⟩ => absurd hty (hnone ty), fun _ => decided_fragments _⟩
  | some ty =>
    have hlongest := isLongestIn_of_find? hfind
    exact ⟨fun _ => hlongest, fun hnone => absurd hlongest.occurs (hnone ty)⟩

/-- The long name is found before the short one that stands in it, and `TINYINT` has no name in
it. -/
theorem ofDeclared_longest_zoned :
    (ofDeclared "timestamp(3) with time zone").IsLongestIn
      (outerText "timestamp(3) with time zone") ∧
    ofDeclared "tinyint(4)" = guessed (outerText "tinyint(4)") := by
  constructor
  · refine (ofDeclared_longest "timestamp(3) with time zone").1 ⟨time, ?_⟩
    exact occursIn_iff_isInfix.1 (by decide +kernel)
  · refine (ofDeclared_longest "tinyint(4)").2 fun ty => ?_
    rw [OccursIn, ← occursIn_iff_isInfix]
    cases ty <;> decide +kernel

end RowParity.SemanticType
