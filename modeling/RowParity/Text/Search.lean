/-!
# Finding and replacing text

Plain occurrence of one text in another, replacement of every occurrence from left to right, and
comparison that does not tell the letters `A`–`Z` from `a`–`z`.
-/

namespace RowParity.Text

/-- Whether `needle` occurs in a text, at any place. -/
def occursIn (needle : List Char) : List Char → Bool
  | [] => needle.isEmpty
  | c :: cs => needle.isPrefixOf (c :: cs) || occursIn needle cs

/-- An occurrence is an infix. -/
theorem occursIn_iff {needle cs : List Char} :
    occursIn needle cs = true ↔ ∃ before after, cs = before ++ needle ++ after := by
  induction cs with
  | nil =>
    simp only [occursIn, List.isEmpty_iff]
    constructor
    · rintro rfl
      exact ⟨[], [], rfl⟩
    · rintro ⟨before, after, h⟩
      have := congrArg List.length h
      simp only [List.length_nil, List.length_append] at this
      exact List.eq_nil_of_length_eq_zero (by omega)
  | cons c cs ih =>
    simp only [occursIn, Bool.or_eq_true, List.isPrefixOf_iff_prefix, ih]
    constructor
    · rintro (⟨after, h⟩ | ⟨before, after, h⟩)
      · exact ⟨[], after, by simp [h]⟩
      · exact ⟨c :: before, after, by simp [h]⟩
    · rintro ⟨before, after, h⟩
      cases before with
      | nil => exact .inl ⟨after, by simpa using h.symm⟩
      | cons b before =>
        simp only [List.cons_append, List.cons.injEq] at h
        exact .inr ⟨before, after, h.2⟩

def contains (s needle : String) : Bool :=
  occursIn needle.toList s.toList

/-- Every occurrence of `needle` replaced, where the scan goes on after `skip` more characters. -/
def replaceFrom (needle replacement : List Char) : Nat → List Char → List Char
  | _, [] => []
  | skip + 1, _ :: cs => replaceFrom needle replacement skip cs
  | 0, c :: cs =>
    if !needle.isEmpty && needle.isPrefixOf (c :: cs) then
      replacement ++ replaceFrom needle replacement (needle.length - 1) cs
    else c :: replaceFrom needle replacement 0 cs

/-- The string with every occurrence of `needle` replaced, from left to right. -/
def replaced (s needle replacement : String) : String :=
  String.ofList (replaceFrom needle.toList replacement.toList 0 s.toList)

def asciiFold (s : String) : List Char :=
  s.toList.map Char.toLower

/-- Equality of strings up to the case of the letters `A`–`Z`. -/
def equalIgnoringCase (a b : String) : Bool :=
  asciiFold a == asciiFold b

end RowParity.Text
