import RowParity.Proofs.Generate.Literal

/-!
# Values are complete

A drawn value is a complete literal of the type it is drawn for, and leaves no quote open: every
single quote in it belongs to a string that ends in it (`IsBalanced`). The days and times of drawn
values are those that were drawn; the ones kept in reserve for parts that the calendar does not have
never come up (`value_complete`).
-/

namespace RowParity

namespace Sql

/-- Every single quote belongs to a string that ends within the text. -/
inductive IsBalanced : List Char → Prop
  | nil : IsBalanced []
  | outside {c : Char} {cs : List Char} (plain : c ≠ '\'') (rest : IsBalanced cs) :
      IsBalanced (c :: cs)
  | string {value rest : List Char} (ends : rest.head? ≠ some '\'') (behind : IsBalanced rest) :
      IsBalanced (enclosed '\'' value ++ rest)

theorem IsBalanced.prepend {cs ds : List Char} (h : IsBalanced ds) (hcs : '\'' ∉ cs) :
    IsBalanced (cs ++ ds) := by
  induction cs with
  | nil => exact h
  | cons c cs ih =>
    have hc : c ≠ '\'' := Ne.symm (List.ne_of_not_mem_cons hcs)
    exact .outside hc (ih (List.not_mem_of_not_mem_cons hcs))

theorem isBalanced_of_notMem {cs : List Char} (h : '\'' ∉ cs) : IsBalanced cs := by
  have hcs := IsBalanced.nil.prepend h
  rwa [List.append_nil] at hcs

theorem isBalanced_enclosed (value : List Char) : IsBalanced (enclosed '\'' value) := by
  have hvalue : IsBalanced (enclosed '\'' value ++ []) := .string (by simp) .nil
  rwa [List.append_nil] at hvalue

end Sql

namespace Generate

open RowParity.Random

/-! ## Quotes -/

theorem IsNumberMark.ne_quote {c : Char} (h : IsNumberMark c) : c ≠ '\'' := by
  rintro rfl
  rcases h with hdigit | hminus | hpoint
  · exact absurd hdigit (by decide)
  · exact absurd hminus (by decide)
  · exact absurd hpoint (by decide)

theorem isBalanced_number {cs : List Char} (h : ∀ c ∈ cs, IsNumberMark c) : Sql.IsBalanced cs :=
  Sql.isBalanced_of_notMem fun hquote => (h _ hquote).ne_quote rfl

theorem IsQuoted.isBalanced {kind : List Char → Prop} {cs : List Char} (h : IsQuoted kind cs) :
    Sql.IsBalanced cs := by
  obtain ⟨value, hread, -⟩ := h
  rw [Sql.readQuoted?_eq_some hread, List.append_nil]
  exact Sql.isBalanced_enclosed value

theorem IsMarked.isBalanced {keyword : String} (hkeyword : '\'' ∉ keyword.toList)
    {kind : List Char → Prop} {cs : List Char} (h : IsMarked keyword kind cs) :
    Sql.IsBalanced cs := by
  obtain ⟨quoted, rfl, hquoted⟩ := h
  exact (Sql.IsBalanced.outside (by decide) hquoted.isBalanced).prepend hkeyword

/-- Complete literals leave no quote open. -/
theorem IsLiteralOf.isBalanced {ty : SemanticType} {cs : List Char} (h : IsLiteralOf ty cs) :
    Sql.IsBalanced cs := by
  cases ty with
  | integer | smallInt | bigInt => exact isBalanced_number (IsWhole.isNumberMark h)
  | double | float | real | decimal | numeric => exact isBalanced_number (IsFixed.isNumberMark h)
  | varchar | char => exact IsQuoted.isBalanced h
  | date | time | timestamp => exact IsMarked.isBalanced (by decide) h
  | boolean =>
    rcases h with rfl | rfl
    · exact Sql.isBalanced_of_notMem (by decide)
    · exact Sql.isBalanced_of_notMem (by decide)
  | blob | clob =>
    cases h
    exact Sql.isBalanced_of_notMem (by decide)

/-! ## Values -/

/-- **Values are complete.** Whatever the type and the source, a value is a complete literal of the
type in which no quote is left open, and each day and each time of day is the one whose parts were
drawn. -/
theorem value_complete (source : Source) :
    (∀ ty, IsLiteralOf ty (value (some ty) source).1.toList ∧
      Sql.IsBalanced (value (some ty) source).1.toList) ∧
    (∃ day, (drawnDate? source).1 = some day ∧ date source = (day, (drawnDate? source).2)) ∧
    ∃ time, (drawnTime? source).1 = some time ∧
      timeOfDay source = (time, (drawnTime? source).2) := by
  refine ⟨fun ty => ?_, ?_, ?_⟩
  · have hliteral : IsLiteralOf ty (value (some ty) source).1.toList :=
      literalOf_isLiteralOf ty source
    exact ⟨hliteral, hliteral.isBalanced⟩
  · obtain ⟨day, hdrawn, -⟩ := drawnDate?_spec source
    refine ⟨day, hdrawn, ?_⟩
    rw [date_eq, Draw.bind_apply, hdrawn]
    rfl
  · obtain ⟨time, hdrawn, -⟩ := drawnTime?_spec source
    refine ⟨time, hdrawn, ?_⟩
    rw [timeOfDay_eq, Draw.bind_apply, hdrawn]
    rfl

end Generate

end RowParity
