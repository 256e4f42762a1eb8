import Mathlib.Logic.Function.Iterate
import RowParity.Proofs.Sql.Bare
import RowParity.Proofs.Sql.NormalForm

/-!
# Terminators and tautologies on any text

What `bare` and `withTautology` do to texts that need not be statements at all. A text is its bare
form with blanks and at most one terminator around it (`exists_bareChars`). The rewritten form of a
text that is not blank is bare and has a filter, so that every further rewriting adds one condition
to it and nothing else (`withTautology_laws`).
-/

namespace RowParity.Sql

open Text (IsBlanks IsTight StandsIn isBlank trim trimEnd)

/-! ## Terminators -/

theorem withoutTerminator_concat (cs : List Char) :
    withoutTerminator (cs ++ [';']) = trimEnd cs := by
  rw [withoutTerminator, List.reverse_concat]
  rfl

theorem withoutTerminator_eq_self {cs : List Char} (h : cs.getLast? ≠ some ';') :
    withoutTerminator cs = cs := by
  unfold withoutTerminator
  split
  · next rest hreverse =>
    rw [← List.head?_reverse, hreverse] at h
    exact absurd rfl h
  · rfl

/-- The bare form is the trim, or what comes before a terminator at the end of the trim. -/
theorem bareChars_cases (cs : List Char) :
    (trim cs).getLast? ≠ some ';' ∧ bareChars cs = trim cs ∨
      ∃ front, trim cs = front ++ [';'] ∧ bareChars cs = trimEnd front := by
  by_cases hlast : (trim cs).getLast? = some ';'
  · obtain ⟨front, hfront⟩ := List.getLast?_eq_some_iff.1 hlast
    exact .inr ⟨front, hfront, by rw [bareChars, hfront, withoutTerminator_concat]⟩
  · exact .inl ⟨hlast, withoutTerminator_eq_self hlast⟩

theorem bareChars_isTight (cs : List Char) : IsTight (bareChars cs) := by
  rcases bareChars_cases cs with ⟨-, hbare⟩ | ⟨front, htrim, hbare⟩
  · rw [hbare]
    exact Text.trim_isTight cs
  · have hhead : ∀ c ∈ front.head?, isBlank c = false := fun c hc => by
      refine (Text.trim_isTight cs).head c ?_
      rw [htrim, List.head?_append, hc, Option.some_or]
      rfl
    rw [hbare, ← Text.trim_eq_trimEnd hhead]
    exact Text.trim_isTight front

/-- Every text is its bare form with blanks around it, and a terminator if its trim ends in one. -/
theorem exists_bareChars (cs : List Char) :
    ∃ front gap back, IsBlanks front ∧ IsBlanks gap ∧ IsBlanks back ∧
      cs = front ++ bareChars cs ++ gap ++
        (if (trim cs).getLast? = some ';' then [';'] else []) ++ back := by
  obtain ⟨front, back, hfront, hback, hcs⟩ := Text.exists_trim cs
  rcases bareChars_cases cs with ⟨hlast, hbare⟩ | ⟨body, htrim, hbare⟩
  · refine ⟨front, [], back, hfront, List.forall_mem_nil _, hback, ?_⟩
    rw [hbare, if_neg hlast, List.append_nil, List.append_nil, ← hcs]
  · obtain ⟨gap, hgap, hbody⟩ := Text.exists_trimEnd body
    refine ⟨front, gap, back, hfront, hgap, hback, ?_⟩
    rw [hbare, if_pos (by rw [htrim, List.getLast?_concat]), List.append_assoc front, ← hbody,
      List.append_assoc front, ← htrim, ← hcs]

/-- A terminator that is added behind blanks is taken off again with them. -/
theorem bareChars_terminated {gap back : List Char} (hgap : IsBlanks gap) (hback : IsBlanks back)
    (cs : List Char) : bareChars (cs ++ gap ++ [';'] ++ back) = trim cs := by
  have hmark : IsTight [';'] := ⟨by rintro c ⟨⟩; decide, by rintro c ⟨⟩; decide⟩
  obtain ⟨front, rest, hfront, hrest, hcs⟩ := Text.exists_trim cs
  have hmiddle := hrest.append hgap
  have hparts : cs ++ gap ++ [';'] ++ back =
      front ++ (trim cs ++ (rest ++ gap) ++ [';']) ++ back := by
    conv => lhs; rw [hcs]
    simp only [List.append_assoc]
  -- What is bare here is the trim of the text in front, unless that is blank altogether.
  by_cases hblank : trim cs = []
  · have hmerged : front ++ ([] ++ (rest ++ gap) ++ [';']) ++ back =
        front ++ (rest ++ gap) ++ [';'] ++ back := by simp only [List.append_assoc, List.nil_append]
    rw [bareChars, hparts, hblank, hmerged, hmark.trim_padded (hfront.append hmiddle) hback]
    rfl
  · have htight := (Text.trim_isTight cs).join hmark hblank (by simp) (rest ++ gap)
    rw [bareChars, hparts, htight.trim_padded hfront hback, withoutTerminator_concat,
      Text.trimEnd_append_blanks hmiddle, (Text.trim_isTight cs).trimEnd_eq]

theorem toList_bare (sql : String) : (bare sql).toList = bareChars sql.toList := by
  rw [bare, String.toList_ofList]

theorem exists_bare_padded (sql : String) : ∃ front gap terminator back : String,
    IsBlanks front.toList ∧ IsBlanks gap.toList ∧ IsBlanks back.toList ∧
      (terminator = ";" ∨ terminator = "") ∧
        sql = front ++ bare sql ++ gap ++ terminator ++ back := by
  obtain ⟨front, gap, back, hfront, hgap, hback, htext⟩ := exists_bareChars sql.toList
  refine ⟨.ofList front, .ofList gap,
    if (trim sql.toList).getLast? = some ';' then ";" else "", .ofList back,
    by simpa using hfront, by simpa using hgap, by simpa using hback, ?_, ?_⟩
  · split
    · exact .inl rfl
    · exact .inr rfl
  · have hterminator : (if (trim sql.toList).getLast? = some ';' then ";" else "").toList =
        if (trim sql.toList).getLast? = some ';' then [';'] else [] := by
      split <;> rfl
    refine String.toList_injective ?_
    simp only [String.toList_append, String.toList_ofList, toList_bare, hterminator]
    exact htext

theorem bare_terminated {sql gap back : String} (hgap : IsBlanks gap.toList)
    (hback : IsBlanks back.toList) (hlast : (trim sql.toList).getLast? ≠ some ';') :
    bare (sql ++ gap ++ ";" ++ back) = bare sql := by
  have htext : (sql ++ gap ++ ";" ++ back).toList =
      sql.toList ++ gap.toList ++ [';'] ++ back.toList := by
    simp only [String.toList_append]
    rfl
  rw [bare, htext, bareChars_terminated hgap hback, bare, bareChars,
    withoutTerminator_eq_self hlast]

/-! ## Filters -/

/-- A text has a filter if the word `WHERE` stands in it between blanks. -/
theorem hasFilter_iff {cs : List Char} :
    hasFilter cs = true ↔ ∃ word, isKeyword "where" word = true ∧ StandsIn isBlank word cs := by
  have hany : hasFilter cs = (Text.words cs).any (isKeyword "where") := rfl
  rw [hany, List.any_eq_true]
  constructor
  · rintro ⟨word, hmem, hword⟩
    exact ⟨word, hword, (Text.mem_words_iff.1 hmem).2⟩
  · rintro ⟨word, hword, hstands⟩
    refine ⟨word, Text.mem_words_iff.2 ⟨?_, hstands⟩, hword⟩
    exact isWord_of_map_toLower (eq_of_beq hword) (by decide) (by decide)

/-- The rewritten form always has a filter. -/
theorem hasFilter_withTautology (sql : String) : hasFilter (withTautology sql).toList = true := by
  rw [withTautology, String.toList_append, tautology]
  by_cases hfilter : hasFilter (bare sql).toList = true
  · obtain ⟨word, hword, hstands⟩ := hasFilter_iff.1 hfilter
    rw [if_pos hfilter]
    exact hasFilter_iff.2 ⟨word, hword, hstands.append (by rintro c ⟨⟩; decide)⟩
  · have htext : " WHERE 1=1".toList = [' '] ++ "WHERE".toList ++ " 1=1".toList := rfl
    rw [if_neg hfilter, htext]
    refine hasFilter_iff.2 ⟨"WHERE".toList, by decide, (bare sql).toList ++ [' '], " 1=1".toList,
      by simp only [List.append_assoc], ?_, ?_⟩
    · rw [List.getLast?_concat]
      rintro c ⟨⟩
      decide
    · rintro c ⟨⟩
      decide

/-! ## Rewriting again -/

theorem opens_of_isTight {cs : List Char} (h : IsTight cs) (hne : cs ≠ []) : Opens cs := by
  cases cs with
  | nil => exact absurd rfl hne
  | cons c cs => exact ⟨c, cs, rfl, h.head c rfl⟩

/-- What is added to a text that is not blank makes a bare text of it. -/
theorem withTautology_isBare {sql : String} (h : bare sql ≠ "") : IsBare (withTautology sql) := by
  have hopens : Opens (bare sql).toList := by
    refine opens_of_isTight ?_ fun hnil => h (String.toList_eq_nil_iff.1 hnil)
    rw [toList_bare]
    exact bareChars_isTight sql.toList
  exact isBare_append hopens (tautology_closes _)

theorem withTautology_of_isBare {sql : String} (h : IsBare sql)
    (hfilter : hasFilter sql.toList = true) : withTautology sql = sql ++ " AND 1=1" := by
  rw [withTautology, h.bare_eq, tautology, if_pos hfilter]

/-- A bare text with a filter gets one more condition each time. -/
theorem iterate_withTautology {sql : String} (h : IsBare sql)
    (hfilter : hasFilter sql.toList = true) (n : Nat) :
    withTautology^[n] sql = sql ++ String.join (List.replicate n " AND 1=1") := by
  induction n generalizing sql with
  | zero =>
    rw [List.replicate_zero, String.join_nil, String.append_empty, Function.iterate_zero_apply]
  | succ n ih =>
    have hagain := ih h.withTautology (hasFilter_withTautology sql)
    rw [Function.iterate_succ_apply, hagain, withTautology_of_isBare h hfilter,
      List.replicate_succ, String.join_cons, String.append_assoc]

/-- **Bare and rewritten forms of any text.** The bare form has no blanks around it and is the text
without blanks and at most one terminator. Unless it is empty, the rewritten form starts with it, is
bare, has the word `WHERE` between blanks, and gets exactly one more condition from each further
rewriting. A terminator behind a text that ends in none makes no difference to its rewritten
form. -/
theorem withTautology_laws (sql : String) :
    (IsTight (bare sql).toList ∧ ∃ front gap terminator back : String,
      IsBlanks front.toList ∧ IsBlanks gap.toList ∧ IsBlanks back.toList ∧
        (terminator = ";" ∨ terminator = "") ∧
          sql = front ++ bare sql ++ gap ++ terminator ++ back) ∧
    (bare sql ≠ "" →
      (∃ added, (added = " WHERE 1=1" ∨ added = " AND 1=1") ∧
        withTautology sql = bare sql ++ added) ∧
      bare (withTautology sql) = withTautology sql ∧
      (∃ word, isKeyword "where" word = true ∧
        StandsIn isBlank word (withTautology sql).toList) ∧
      ∀ n, withTautology^[n + 1] sql =
        withTautology sql ++ String.join (List.replicate n " AND 1=1")) ∧
    ((trim sql.toList).getLast? ≠ some ';' → ∀ gap back : String, IsBlanks gap.toList →
      IsBlanks back.toList → withTautology (sql ++ gap ++ ";" ++ back) = withTautology sql) := by
  refine ⟨⟨?_, ?_⟩, fun hne => ?_, fun hlast gap back hgap hback => ?_⟩
  · rw [toList_bare]
    exact bareChars_isTight sql.toList
  · exact exists_bare_padded sql
  · have hbare := withTautology_isBare hne
    have hfilter := hasFilter_withTautology sql
    refine ⟨⟨tautology (bare sql).toList, ?_, rfl⟩, hbare.bare_eq, hasFilter_iff.1 hfilter,
      fun n => iterate_withTautology hbare hfilter n⟩
    unfold tautology
    split
    · exact .inr rfl
    · exact .inl rfl
  · rw [withTautology, bare_terminated hgap hback hlast, withTautology]

/-- A filter in small letters behind a blank of two bytes, a terminator behind a blank, and another
terminator behind that. -/
theorem withTautology_laws_two_terminators :
    bare "select a from t Where\u00a0b ; ;" ≠ "" ∧
      (∀ n, withTautology^[n + 1] "select a from t Where\u00a0b ; ;" =
        withTautology "select a from t Where\u00a0b ; ;" ++
          String.join (List.replicate n " AND 1=1")) ∧
      (trim " a\u2003".toList).getLast? ≠ some ';' ∧
        withTautology (" a\u2003" ++ "\t" ++ ";" ++ " \u3000") = withTautology " a\u2003" := by
  have hne : bare "select a from t Where\u00a0b ; ;" ≠ "" := by decide
  have hlast : (trim " a\u2003".toList).getLast? ≠ some ';' := by decide
  refine ⟨hne, ((withTautology_laws _).2.1 hne).2.2.2, hlast, ?_⟩
  exact (withTautology_laws " a\u2003").2.2 hlast "\t" " \u3000"
    (List.all_eq_true.1 (by decide)) (List.all_eq_true.1 (by decide))

end RowParity.Sql
