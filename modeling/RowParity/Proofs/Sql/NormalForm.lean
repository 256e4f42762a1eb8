import RowParity.Proofs.Sql.Definition

/-!
# Tables that were read

Reading drops blanks and the words `NOT NULL` and keeps all other characters, the marks among them,
so the definition of a column that was read opens and closes as many parentheses as the piece it
was read from (`Column.isReadable_of_readColumn?`). Every table that was read is therefore normal
(`Table.isNormal_of_ofCreateStatement?`): whatever a statement looks like, to write the table that
was read from it and to read that again changes nothing more.
-/

namespace RowParity

namespace Sql

/-! ## Marks and blanks -/

/-- A character with a property that no mark has. -/
theorem isMark_eq_false {p : Char → Bool} (hp : p '(' = false ∧ p ')' = false ∧ p ',' = false)
    {c : Char} (h : p c = true) : isMark c = false := by
  obtain ⟨hopen, hclose, hcomma⟩ := hp
  rw [isMark, Bool.or_eq_false_iff, Bool.or_eq_false_iff]
  refine ⟨⟨?_, ?_⟩, ?_⟩ <;>
    · rw [decide_eq_false_iff_not]
      rintro rfl
      simp_all

theorem isMark_of_isBlank {c : Char} (h : Text.isBlank c = true) : isMark c = false :=
  isMark_eq_false (by decide) h

theorem marks_trimStart (cs : List Char) : marks (Text.trimStart cs) = marks cs := by
  have hblanks : marks (cs.takeWhile Text.isBlank) = [] := marks_eq_nil fun c hc =>
    isMark_of_isBlank (List.all_eq_true.1 List.all_takeWhile c hc)
  calc marks (Text.trimStart cs)
    _ = marks (cs.takeWhile Text.isBlank) ++ marks (cs.dropWhile Text.isBlank) := by
      rw [hblanks, List.nil_append, Text.trimStart]
    _ = marks cs := by rw [← marks_append, List.takeWhile_append_dropWhile]

theorem marks_reverse (cs : List Char) : marks cs.reverse = (marks cs).reverse :=
  List.filter_reverse

theorem marks_trimEnd (cs : List Char) : marks (Text.trimEnd cs) = marks cs := by
  rw [Text.trimEnd, marks_reverse, marks_trimStart, marks_reverse, List.reverse_reverse]

theorem marks_trim (cs : List Char) : marks (Text.trim cs) = marks cs := by
  rw [Text.trim, marks_trimEnd, marks_trimStart]

theorem IsGap.marks_eq {cs : List Char} (h : IsGap cs) : marks cs = [] :=
  marks_eq_nil fun c hc => isMark_of_isBlank (h.2 c hc)

/-! ## Words up to case -/

theorem isAlpha_of_toLower {c : Char} (h : c.toLower.isAlpha = true) : c.isAlpha = true := by
  by_cases hupper : 'A'.val ≤ c.val ∧ c.val ≤ 'Z'.val
  · show (decide ('A'.val ≤ c.val ∧ c.val ≤ 'Z'.val) ||
      decide ('a'.val ≤ c.val) && decide (c.val ≤ 'z'.val)) = true
    rw [decide_eq_true hupper, Bool.true_or]
  · have hsame : c.toLower = c := dif_neg hupper
    rwa [hsame] at h

/-- What is a word of letters in lower case holds letters only. -/
theorem isWordChar_of_map_toLower {found word : List Char} (h : found.map Char.toLower = word)
    (hword : word.all Char.isAlpha = true) : ∀ c ∈ found, isWordChar c = true := by
  intro c hc
  subst h
  have halpha : c.isAlpha = true :=
    isAlpha_of_toLower (List.all_eq_true.1 hword _ (List.mem_map_of_mem hc))
  exact isWordChar_of_isLetter (by rw [isLetter, halpha, Bool.true_or])

theorem marks_of_map_toLower {found word : List Char} (h : found.map Char.toLower = word)
    (hword : word.all Char.isAlpha = true) : marks found = [] :=
  marks_eq_nil fun c hc =>
    isMark_eq_false (p := isWordChar) (by decide) (isWordChar_of_map_toLower h hword c hc)

theorem isWord_of_map_toLower {found word : List Char} (h : found.map Char.toLower = word)
    (hne : word ≠ []) (hword : word.all Char.isAlpha = true) : Text.IsWord found where
  ne_nil := by
    rintro rfl
    exact hne h.symm
  solid c hc := isBlank_of_isWordChar (isWordChar_of_map_toLower h hword c hc)

theorem afterWord?_append {found word : List Char} (h : found.map Char.toLower = word)
    (rest : List Char) : afterWord? word (found ++ rest) = some rest := by
  subst h
  induction found with
  | nil => rfl
  | cons c found ih => rw [List.map_cons, List.cons_append, afterWord?, if_pos rfl, ih]

theorem afterBlanks?_append {gap : List Char} (h : IsGap gap) (rest : List Char) :
    afterBlanks? (gap ++ rest) = some (Text.trimStart rest) := by
  obtain ⟨hne, hblank⟩ := h
  cases gap with
  | nil => exact absurd rfl hne
  | cons c gap =>
    rw [List.cons_append, afterBlanks?, if_pos (hblank c List.mem_cons_self), Text.trimStart,
      List.dropWhile_append_of_pos fun d hd => hblank d (List.mem_cons_of_mem c hd)]
    rfl

/-! ## The end of a declaration -/

/-- A trailing `NOT NULL` is found. -/
theorem beforeNotNull?_of_endsInNotNull {cs : List Char} (h : EndsInNotNull cs) :
    ∃ rest, beforeNotNull? cs.reverse = some rest := by
  obtain ⟨before, gap₁, not, gap₂, null, rfl, hgap₁, hnot, hgap₂, hnull⟩ := h
  have hnot' : not.reverse.map Char.toLower = "ton".toList := by
    rw [List.map_reverse, hnot]
    rfl
  have hnull' : null.reverse.map Char.toLower = "llun".toList := by
    rw [List.map_reverse, hnull]
    rfl
  have hnotWord := isWord_of_map_toLower hnot' (by decide) (by decide)
  have hnullWord := isWord_of_map_toLower hnull' (by decide) (by decide)
  have hreverse : (before ++ gap₁ ++ not ++ gap₂ ++ null).reverse =
      null.reverse ++ (gap₂.reverse ++ (not.reverse ++ (gap₁.reverse ++ before.reverse))) := by
    simp
  refine ⟨Text.trimStart before.reverse, ?_⟩
  rw [hreverse, beforeNotNull?, hnullWord.trimStart_append, afterWord?_append hnull',
    Option.bind_eq_bind, Option.bind_some, afterBlanks?_append hgap₂.reverse, Option.bind_some,
    hnotWord.trimStart_append, afterWord?_append hnot', Option.bind_some,
    afterBlanks?_append hgap₁.reverse]

theorem endsInNotNull_of_suffix {cs ds : List Char} (hsuffix : cs <:+ ds) (h : EndsInNotNull cs) :
    EndsInNotNull ds := by
  obtain ⟨front, rfl⟩ := hsuffix
  obtain ⟨before, gap₁, not, gap₂, null, rfl, hends⟩ := h
  exact ⟨front ++ before, gap₁, not, gap₂, null, by simp only [List.append_assoc], hends⟩

/-- What is read off the end of a definition: a type without blanks around it and with all marks,
which ends in `NOT NULL` only if it ended in that twice. -/
structure IsModified (cs declared : List Char) (notNull : Bool) : Prop where
  tight : Text.IsTight declared
  marks : marks declared = marks cs
  typed : notNull = false → declared ≠ []
  opened : notNull = false → ¬EndsInNotNull declared

theorem isModified_readModifiers {cs : List Char} (hne : cs ≠ [])
    (hlast : ∀ c ∈ cs.getLast?, Text.isBlank c = false) :
    IsModified cs (readModifiers cs).1 (readModifiers cs).2 := by
  have hend : Text.trimEnd cs = cs := Text.trimEnd_of_getLast? hlast
  unfold readModifiers
  split
  · next rest hrest =>
    obtain ⟨gap₁, not, gap₂, null, hcs, hgap₁, hnot, hgap₂, hnull⟩ := beforeNotNull?_some hrest
    refine ⟨Text.trim_isTight _, ?_, fun h => (by cases h), fun h => (by cases h)⟩
    rw [hend] at hcs
    rw [hcs]
    simp [marks_trim, hgap₁.marks_eq, hgap₂.marks_eq, marks_of_map_toLower hnot (by decide),
      marks_of_map_toLower hnull (by decide)]
  · next hnone =>
    have hsuffix : Text.trim cs <:+ cs := Text.trim_suffix hlast
    refine ⟨Text.trim_isTight cs, marks_trim cs, fun _ => Text.trim_ne_nil hne hlast, fun _ h => ?_⟩
    obtain ⟨rest, hrest⟩ := beforeNotNull?_of_endsInNotNull (endsInNotNull_of_suffix hsuffix h)
    rw [hrest] at hnone
    cases hnone

/-! ## Columns -/

/-- A column that was read: its name is the first word of the text, and all else is modifiers. -/
theorem readColumn?_some {cs : List Char} {column : Column} (h : readColumn? cs = some column) :
    ∃ name blank rest, Text.trim cs = name ++ blank :: rest ∧ Text.IsWord name ∧
      Text.isBlank blank = true ∧
      column = (Column.declared (String.ofList name)
        (String.ofList (readModifiers rest).1)).notNullIf (readModifiers rest).2 := by
  have htight := Text.trim_isTight cs
  have hsplit := List.takeWhile_append_dropWhile (p := (!Text.isBlank ·)) (l := Text.trim cs)
  have hname : ∀ c ∈ (Text.trim cs).takeWhile (!Text.isBlank ·), Text.isBlank c = false :=
    fun c hc => by simpa using List.all_eq_true.1 List.all_takeWhile c hc
  have hblank := List.head?_dropWhile_not (!Text.isBlank ·) (Text.trim cs)
  unfold readColumn? at h
  dsimp only at h
  split at h
  · cases h
  · next blank rest hdrop =>
    rw [hdrop] at hsplit hblank
    have hblank : Text.isBlank blank = true := by simpa using hblank
    refine ⟨_, blank, rest, hsplit.symm, ⟨fun hnil => ?_, hname⟩, hblank, (Option.some.inj h).symm⟩
    -- With no name the text would start with the blank.
    rw [hnil, List.nil_append] at hsplit
    rw [← hsplit] at htight
    rw [htight.head blank rfl] at hblank
    cases hblank

end Sql

/-- The marks of a definition are those of name and type. -/
theorem Column.marks_definition (column : Column) :
    Sql.marks column.definition.toList =
      Sql.marks column.name.toList ++ Sql.marks column.declaredType.toList := by
  have hclosing : Sql.marks column.closing = [] := by
    unfold closing
    cases column.nullable with
    | true => rfl
    | false => decide
  have hblank : Sql.marks [' '] = [] := by decide
  rw [toList_definition, ← List.singleton_append, Sql.marks_append, Sql.marks_append,
    Sql.marks_append, hclosing, hblank, List.append_nil, List.nil_append]

/-- A column that was read can be read again, and its definition has the marks of what it was read
from. -/
theorem Column.isReadable_of_readColumn? {cs : List Char} {column : Column}
    (h : Sql.readColumn? cs = some column) :
    column.IsReadable ∧ Sql.marks column.definition.toList = Sql.marks cs := by
  obtain ⟨name, blank, rest, htrim, hname, hblank, rfl⟩ := Sql.readColumn?_some h
  have htight := Text.trim_isTight cs
  rw [htrim] at htight
  have hne : rest ≠ [] := by
    rintro rfl
    rw [htight.last blank List.getLast?_concat] at hblank
    cases hblank
  have hlast : ∀ c ∈ rest.getLast?, Text.isBlank c = false := by
    intro c hc
    refine htight.last c ?_
    rw [List.getLast?_append, List.getLast?_cons, hc]
    rfl
  have hmodified := Sql.isModified_readModifiers hne hlast
  have hmark : Sql.marks [blank] = [] :=
    Sql.marks_eq_nil (by simpa using Sql.isMark_of_isBlank hblank)
  have hmarks : Sql.marks cs = Sql.marks name ++ Sql.marks rest := by
    rw [← Sql.marks_trim, htrim, ← List.singleton_append, ← List.append_assoc, Sql.marks_append,
      Sql.marks_append, hmark, List.append_nil]
  rw [Column.notNullIf_declared]
  constructor
  · constructor <;> dsimp only
    · rwa [String.toList_ofList]
    · rw [String.toList_ofList]
      exact hmodified.tight
    · rw [String.toList_ofList, Bool.not_eq_true']
      exact hmodified.typed
    · rw [String.toList_ofList, Bool.not_eq_true']
      exact hmodified.opened
  · rw [Column.marks_definition, String.toList_ofList, String.toList_ofList, hmodified.marks,
      hmarks]

/-! ## Tables -/

namespace Sql

theorem isTableName_of_readHead? {cs name body : List Char}
    (h : readHead? cs = some (name, body)) : isTableName name = true := by
  rw [readHead?] at h
  simp only [Option.bind_eq_bind, Option.bind_eq_some_iff] at h
  obtain ⟨_, -, _, -, _, -, rest, -, h⟩ := h
  cases rest with
  | nil => cases h
  | cons c cs =>
    dsimp only at h
    split at h
    · next hstart =>
      split at h
      · cases h
        rw [isTableName, hstart, List.all_takeWhile, Bool.true_and]
      · cases h
    · cases h

/-- A table that was read: a name, and the columns that were found in the pieces of its body. -/
theorem readTable?_some {cs : List Char} {table : Table} (h : readTable? cs = some table) :
    ∃ name body, isTableName name = true ∧ (topLevelPieces 0 body).filterMap readColumn? ≠ [] ∧
      table = .plain (String.ofList name) ((topLevelPieces 0 body).filterMap readColumn?) := by
  rw [readTable?] at h
  simp only [Option.bind_eq_bind, Option.bind_eq_some_iff] at h
  obtain ⟨⟨name, rest⟩, hhead, ⟨body, tail⟩, -, h⟩ := h
  dsimp only at h
  split at h
  · next hend =>
    rw [Bool.and_eq_true, Bool.not_eq_true', List.isEmpty_eq_false_iff] at hend
    exact ⟨name, body, isTableName_of_readHead? hhead, hend.2, (Option.some.inj h).symm⟩
  · cases h

end Sql

namespace Table

/-- Reading gives nothing but normal tables. -/
theorem isNormal_of_ofCreateStatement? {sql : String} {table : Table}
    (h : Table.ofCreateStatement? sql = some table) : table.IsNormal := by
  obtain ⟨name, body, hname, hcolumns, rfl⟩ := Sql.readTable?_some h
  have hread : ∀ column ∈ (Sql.topLevelPieces 0 body).filterMap Sql.readColumn?,
      column.IsReadable := by
    intro column hcolumn
    obtain ⟨piece, -, hpiece⟩ := List.mem_filterMap.1 hcolumn
    exact (Column.isReadable_of_readColumn? hpiece).1
  refine ⟨?_, hcolumns, hread, ?_, rfl⟩
  · rwa [plain, String.toList_ofList]
  · rw [plain, List.map_filterMap]
    refine (Sql.arePieces_topLevelPieces body).filterMap fun piece other hother => ?_
    obtain ⟨column, hcolumn, rfl⟩ := Option.map_eq_some_iff.1 hother
    exact (Column.isReadable_of_readColumn? hcolumn).2

/-- **Reading reaches a normal form in one step.** Whatever text a table was read from, it is read
again from the definition that is written for it. -/
theorem ofCreateStatement?_normal_form {sql : String} {table : Table}
    (h : Table.ofCreateStatement? sql = some table) :
    Table.ofCreateStatement? table.createStatement = some table :=
  (isNormal_of_ofCreateStatement? h).read_back

/-- A definition with a column that has no type, a type that is missing and a parenthesis that stays
open. -/
def looseStatement : String :=
  "\ncreate TABLE \u017F1(id, n\u00A0 NOT NULL, a(b INT, x  NOT NULL not\tnull ) ;"

/-- What is read of it. -/
def looseTable : Table :=
  .plain "\u017F1"
    [(Column.declared "n" "").notNull, (Column.declared "a(b" "INT, x  NOT NULL").notNull]

theorem ofCreateStatement?_normal_form_looseTable :
    Table.ofCreateStatement? looseStatement = some looseTable ∧
      Table.ofCreateStatement? looseTable.createStatement = some looseTable := by
  have hread : Table.ofCreateStatement? looseStatement = some looseTable := by decide +kernel
  exact ⟨hread, ofCreateStatement?_normal_form hread⟩

end Table

end RowParity
