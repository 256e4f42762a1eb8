import RowParity.Proofs.Sql.Select
import RowParity.Sql.Quoted

/-!
# Texts that are bare already

Making a statement bare changes nothing if the text starts with something and ends in neither a
blank nor a terminator (`IsBare.bare_eq`). Which of the two ends of a text is which depends only on
its first and its last part, so a text that was put together is bare whatever stands in the middle.
-/

namespace RowParity.Sql

/-- The text starts with a character that is no blank. -/
def Opens (cs : List Char) : Prop :=
  ∃ c rest, cs = c :: rest ∧ Text.isBlank c = false

/-- The text ends in a character that is neither a blank nor a terminator. -/
def Closes (cs : List Char) : Prop :=
  ∃ front c, cs = front ++ [c] ∧ Text.isBlank c = false ∧ c ≠ ';'

theorem Opens.append {cs : List Char} (h : Opens cs) (ds : List Char) : Opens (cs ++ ds) := by
  obtain ⟨c, rest, rfl, hc⟩ := h
  exact ⟨c, rest ++ ds, rfl, hc⟩

theorem Closes.append {ds : List Char} (h : Closes ds) (cs : List Char) : Closes (cs ++ ds) := by
  obtain ⟨front, c, rfl, hc⟩ := h
  exact ⟨cs ++ front, c, (List.append_assoc ..).symm, hc⟩

theorem opens_append {a : String} (h : Opens a.toList) (b : String) : Opens (a ++ b).toList := by
  rw [String.toList_append]
  exact h.append _

theorem closes_append {b : String} (h : Closes b.toList) (a : String) : Closes (a ++ b).toList := by
  rw [String.toList_append]
  exact h.append _

/-- Words end well, whatever stands before them. -/
theorem closes_of_wordChars {cs : List Char} (hne : cs ≠ [])
    (h : ∀ c ∈ cs, isWordChar c = true) : Closes cs := by
  have hlast := h _ (List.getLast_mem hne)
  refine ⟨cs.dropLast, cs.getLast hne, (List.dropLast_concat_getLast hne).symm,
    isBlank_of_isWordChar hlast, fun heq => ?_⟩
  rw [heq] at hlast
  exact absurd hlast (by decide)

theorem closes_of_isPlain {cs : List Char} (h : isPlain cs = true) : Closes cs :=
  closes_of_wordChars (isPlain_isWord h).ne_nil (isPlain_all h)

theorem closes_enclosed {mark : Char} (hblank : Text.isBlank mark = false) (hmark : mark ≠ ';')
    (cs : List Char) : Closes (enclosed mark cs) :=
  ⟨mark :: doubled mark cs, mark, rfl, hblank, hmark⟩

/-- A statement that is bare already. -/
structure IsBare (sql : String) : Prop where
  opens : Opens sql.toList
  closes : Closes sql.toList

theorem isBare_append {a b : String} (ha : Opens a.toList) (hb : Closes b.toList) :
    IsBare (a ++ b) :=
  ⟨opens_append ha b, closes_append hb a⟩

theorem bareChars_eq_self {cs : List Char} (hopens : Opens cs) (hcloses : Closes cs) :
    bareChars cs = cs := by
  obtain ⟨c, rest, rfl, hc⟩ := hopens
  obtain ⟨front, d, hlast, hd, hterminator⟩ := hcloses
  have htight : Text.IsTight (c :: rest) := by
    refine ⟨fun a ha => ?_, fun a ha => ?_⟩
    · cases ha
      exact hc
    · rw [hlast, List.getLast?_concat] at ha
      cases ha
      exact hd
  rw [bareChars, htight.trim_eq, withoutTerminator, hlast, List.reverse_concat]
  split
  · next heq => exact absurd (List.cons.inj heq).1 hterminator
  · rfl

/-- **A bare statement stays as it is.** -/
theorem IsBare.bare_eq {sql : String} (h : IsBare sql) : bare sql = sql := by
  rw [bare, bareChars_eq_self h.opens h.closes, String.ofList_toList]

theorem tautology_closes (cs : List Char) : Closes (tautology cs).toList := by
  unfold tautology
  split
  · exact ⟨" AND 1=".toList, '1', rfl, by decide, by decide⟩
  · exact ⟨" WHERE 1=".toList, '1', rfl, by decide, by decide⟩

/-- The rewritten form ends in its new condition. -/
theorem IsBare.withTautology {sql : String} (h : IsBare sql) : IsBare (withTautology sql) := by
  rw [Sql.withTautology, h.bare_eq]
  exact isBare_append h.opens (tautology_closes _)

theorem IsBare.explained {sql : String} (h : IsBare sql) : IsBare ("EXPLAIN " ++ sql) :=
  isBare_append ⟨'E', _, rfl, by decide⟩ h.closes

end RowParity.Sql
