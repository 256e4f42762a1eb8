import RowParity.Proofs.Sql.Nesting
import RowParity.Proofs.Sql.Token

/-!
# Reading table definitions back

A column is readable if its definition can be taken apart again: its name is one word, its type has
no blanks around it, and the type of a nullable column does not itself end in `NOT NULL`. A table of
readable columns is normal if the commas between their definitions are all that cuts its body into
pieces. Normal tables survive being written into a table definition and read from it
(`Table.IsNormal.read_back`), among them those whose definitions are nested texts
(`ofCreateStatement?_createStatement`).
-/

namespace RowParity

namespace Sql

/-! ## The end of a declaration -/

/-- Blanks, at least one. -/
def IsGap (cs : List Char) : Prop :=
  cs ≠ [] ∧ ∀ c ∈ cs, Text.isBlank c = true

/-- The text ends in `NOT NULL` in any case, with blanks before each of the two words. -/
def EndsInNotNull (cs : List Char) : Prop :=
  ∃ before gap₁ not gap₂ null, cs = before ++ gap₁ ++ not ++ gap₂ ++ null ∧ IsGap gap₁ ∧
    not.map Char.toLower = "not".toList ∧ IsGap gap₂ ∧ null.map Char.toLower = "null".toList

theorem IsGap.reverse {cs : List Char} (h : IsGap cs) : IsGap cs.reverse :=
  ⟨by simpa using h.1, fun c hc => h.2 c (List.mem_reverse.1 hc)⟩

theorem not_endsInNotNull_of_isSolid {cs : List Char} (h : Text.IsSolid cs) :
    ¬EndsInNotNull cs := by
  rintro ⟨before, gap₁, not, gap₂, null, rfl, ⟨hne, hgap₁⟩, -⟩
  obtain ⟨c, hc⟩ := List.exists_mem_of_ne_nil gap₁ hne
  have hblank := h c (by simp [hc])
  rw [hgap₁ c hc] at hblank
  cases hblank

theorem afterWord?_some {word cs rest : List Char} (h : afterWord? word cs = some rest) :
    ∃ found, cs = found ++ rest ∧ found.map Char.toLower = word := by
  induction word generalizing cs with
  | nil =>
    rw [afterWord?] at h
    cases h
    exact ⟨[], rfl, rfl⟩
  | cons w ws ih =>
    cases cs with
    | nil => cases h
    | cons c cs =>
      rw [afterWord?] at h
      split at h
      · next hc =>
        obtain ⟨found, rfl, hfound⟩ := ih h
        exact ⟨c :: found, rfl, by rw [List.map_cons, hc, hfound]⟩
      · cases h

theorem afterBlanks?_some {cs rest : List Char} (h : afterBlanks? cs = some rest) :
    ∃ gap, cs = gap ++ rest ∧ IsGap gap := by
  cases cs with
  | nil => cases h
  | cons c cs =>
    rw [afterBlanks?] at h
    split at h
    · next hc =>
      cases h
      refine ⟨c :: cs.takeWhile Text.isBlank, ?_, List.cons_ne_nil _ _, ?_⟩
      · rw [List.cons_append, Text.trimStart, List.takeWhile_append_dropWhile]
      · exact List.forall_mem_cons.2 ⟨hc, List.all_eq_true.1 List.all_takeWhile⟩
    · cases h

/-- What stands before a trailing `NOT NULL` that was found. -/
theorem beforeNotNull?_some {cs rest : List Char} (h : beforeNotNull? cs.reverse = some rest) :
    ∃ gap₁ not gap₂ null, Text.trimEnd cs = rest.reverse ++ gap₁ ++ not ++ gap₂ ++ null ∧
      IsGap gap₁ ∧ not.map Char.toLower = "not".toList ∧ IsGap gap₂ ∧
      null.map Char.toLower = "null".toList := by
  rw [beforeNotNull?] at h
  simp only [Option.bind_eq_bind, Option.bind_eq_some_iff] at h
  obtain ⟨r₁, h₁, r₂, h₂, r₃, h₃, h₄⟩ := h
  obtain ⟨null, hcs, hnull⟩ := afterWord?_some h₁
  obtain ⟨gap₂, rfl, hgap₂⟩ := afterBlanks?_some h₂
  obtain ⟨not, rfl, hnot⟩ := afterWord?_some h₃
  obtain ⟨gap₁, rfl, hgap₁⟩ := afterBlanks?_some h₄
  refine ⟨gap₁.reverse, not.reverse, gap₂.reverse, null.reverse, ?_, hgap₁.reverse, ?_,
    hgap₂.reverse, ?_⟩
  · rw [Text.trimEnd, hcs]
    simp
  · rw [List.map_reverse, hnot]
    rfl
  · rw [List.map_reverse, hnull]
    rfl

theorem endsInNotNull_of_beforeNotNull? {cs rest : List Char} (htight : Text.IsTight cs)
    (h : beforeNotNull? cs.reverse = some rest) : EndsInNotNull cs := by
  obtain ⟨gap₁, not, gap₂, null, hcs, hends⟩ := beforeNotNull?_some h
  rw [htight.trimEnd_eq] at hcs
  exact ⟨rest.reverse, gap₁, not, gap₂, null, hcs, hends⟩

theorem beforeNotNull?_append (cs : List Char) :
    beforeNotNull? (cs ++ " NOT NULL".toList).reverse = some (Text.trimStart cs.reverse) := by
  rw [List.reverse_append]
  rfl

/-- A type that does not end in `NOT NULL` is all there is. -/
theorem readModifiers_open {cs : List Char} (htight : Text.IsTight cs)
    (h : ¬EndsInNotNull cs) : readModifiers cs = (cs, false) := by
  unfold readModifiers
  split
  · next hbefore => exact absurd (endsInNotNull_of_beforeNotNull? htight hbefore) h
  · rw [htight.trim_eq]

theorem readModifiers_closed {cs : List Char} (htight : Text.IsTight cs) :
    readModifiers (cs ++ " NOT NULL".toList) = (cs, true) := by
  rw [readModifiers, beforeNotNull?_append]
  show (Text.trim (Text.trimEnd cs), true) = _
  rw [htight.trimEnd_eq, htight.trim_eq]

end Sql

/-! ## Columns -/

/-- The definition of the column can be taken apart again. -/
structure Column.IsReadable (column : Column) : Prop where
  name : Text.IsWord column.name.toList
  type : Text.IsTight column.declaredType.toList
  /-- Without a type there is no column definition, unless `NOT NULL` follows. -/
  typed : column.nullable = true → column.declaredType.toList ≠ []
  /-- What ends in `NOT NULL` is read as closed to `NULL`. -/
  opened : column.nullable = true → ¬Sql.EndsInNotNull column.declaredType.toList
  sorted : column.semanticType = .ofDeclared column.declaredType

/-- What follows the declared type in a definition. -/
def Column.closing (column : Column) : List Char :=
  if column.nullable then [] else " NOT NULL".toList

theorem Column.toList_definition (column : Column) :
    column.definition.toList =
      column.name.toList ++ ' ' :: (column.declaredType.toList ++ column.closing) := by
  unfold definition closing
  cases column.nullable with
  | true => simp
  | false => simp

namespace Column.IsReadable

variable {column : Column} (h : column.IsReadable)

include h

theorem definition_isTight : Text.IsTight column.definition.toList := by
  rw [column.toList_definition, Column.closing]
  cases hnull : column.nullable with
  | true =>
    rw [if_pos rfl, List.append_nil]
    simpa using h.name.solid.isTight.join h.type h.name.ne_nil (h.typed hnull) [' ']
  | false =>
    -- Here the definition ends in `NULL`, so the type may even be empty.
    have hlast : Text.IsTight "NULL".toList := Text.IsSolid.isTight (by decide)
    simpa using h.name.solid.isTight.join hlast h.name.ne_nil (by decide)
      (' ' :: column.declaredType.toList ++ " NOT ".toList)

theorem readModifiers_eq :
    Sql.readModifiers (column.declaredType.toList ++ column.closing) =
      (column.declaredType.toList, !column.nullable) := by
  rw [Column.closing]
  cases hnull : column.nullable with
  | true =>
    rw [if_pos rfl, List.append_nil]
    exact Sql.readModifiers_open h.type (h.opened hnull)
  | false => exact Sql.readModifiers_closed h.type

/-- **A readable column is read from its definition.** -/
theorem readColumn?_definition : Sql.readColumn? column.definition.toList = some column := by
  have hname : ∀ c ∈ column.name.toList, (!Text.isBlank c) = true :=
    fun c hc => by simp [h.name.solid c hc]
  unfold Sql.readColumn?
  rw [h.definition_isTight.trim_eq, column.toList_definition]
  dsimp only
  rw [List.dropWhile_append_of_pos hname, List.takeWhile_append_of_pos hname,
    List.dropWhile_cons_of_neg (by decide), List.takeWhile_cons_of_neg (by decide)]
  dsimp only
  rw [h.readModifiers_eq, List.append_nil, String.ofList_toList, String.ofList_toList]
  obtain ⟨name, declared, semantic, nullable⟩ := column
  have hsorted : semantic = .ofDeclared declared := h.sorted
  subst hsorted
  cases nullable with
  | true => rfl
  | false => rfl

end Column.IsReadable

theorem Sql.readColumn?_blank (cs : List Char) : readColumn? (' ' :: cs) = readColumn? cs := by
  have htrim : Text.trim (' ' :: cs) = Text.trim cs := by
    rw [Text.trim, Text.trimStart_cons_of_blank (by decide), Text.trim]
  rw [readColumn?, readColumn?, htrim]

/-! ## Tables -/

namespace Sql

theorem isNameStart_of_isLetter {c : Char} (h : isLetter c = true) : isNameStart c = true := by
  simp only [isLetter, Bool.or_eq_true, beq_iff_eq] at h
  rcases h with h | rfl
  · simp [isNameStart, h]
  · decide

theorem isNameChar_of_isWordChar {c : Char} (h : isWordChar c = true) : isNameChar c = true := by
  rw [isWordChar, Bool.or_eq_true] at h
  rcases h with h | h
  · rw [isNameChar, isNameStart_of_isLetter h, Bool.true_or]
  · rw [isNameChar, h, Bool.or_true]

/-- A name as a table definition may hold it. -/
def isTableName : List Char → Bool
  | [] => false
  | c :: cs => isNameStart c && cs.all isNameChar

theorem isTableName_of_isPlain {name : List Char} (h : isPlain name = true) :
    isTableName name = true := by
  cases name with
  | nil => cases h
  | cons c cs =>
    have hchars : ∀ d ∈ cs, isNameChar d = true := fun d hd =>
      isNameChar_of_isWordChar (isPlain_all h d (List.mem_cons_of_mem c hd))
    rw [isPlain, Bool.and_eq_true] at h
    rw [isTableName, isNameStart_of_isLetter h.1, List.all_eq_true.2 hchars, Bool.true_and]

theorem isBlank_of_isNameStart {c : Char} (h : isNameStart c = true) : Text.isBlank c = false := by
  simp only [isNameStart, Bool.or_eq_true, decide_eq_true_eq] at h
  rcases h with ((h | rfl) | rfl) | rfl
  · exact isBlank_of_isWordChar (isWordChar_of_isLetter (by rw [isLetter, h, Bool.true_or]))
  · decide
  · decide
  · decide

/-- After the keywords a head is read from where the name starts. -/
theorem readHead?_create {c : Char} (h : isNameStart c = true) (cs : List Char) :
    readHead? ("CREATE TABLE ".toList ++ c :: cs) =
      match Text.trimStart (cs.dropWhile isNameChar) with
      | '(' :: body => some (c :: cs.takeWhile isNameChar, body)
      | _ => none := by
  -- The head is taken apart word by word, and each step starts where the last one stopped.
  have hcreate : afterWord? "create".toList (Text.trimStart ("CREATE TABLE ".toList ++ c :: cs)) =
      some (" TABLE ".toList ++ c :: cs) := rfl
  have htable : afterBlanks? (" TABLE ".toList ++ c :: cs) = some ("TABLE ".toList ++ c :: cs) :=
    rfl
  have hblank : afterWord? "table".toList ("TABLE ".toList ++ c :: cs) = some (' ' :: c :: cs) :=
    rfl
  have hname : afterBlanks? (' ' :: c :: cs) = some (c :: cs) := by
    rw [afterBlanks?, if_pos (by decide), Text.trimStart_of_head (isBlank_of_isNameStart h)]
  rw [readHead?, hcreate, Option.bind_eq_bind, Option.bind_some, htable, Option.bind_some, hblank,
    Option.bind_some, hname, Option.bind_some]
  dsimp only
  exact (if_pos h).trans rfl

/-- The head of a written table definition. -/
theorem readHead?_append {name : List Char} (h : isTableName name = true) (body : List Char) :
    readHead? ("CREATE TABLE ".toList ++ name ++ " (".toList ++ body) = some (name, body) := by
  cases name with
  | nil => cases h
  | cons c cs =>
    rw [isTableName, Bool.and_eq_true] at h
    have hchars : ∀ d ∈ cs, isNameChar d = true := List.all_eq_true.1 h.2
    have hbody : Text.trimStart ((" (".toList ++ body).dropWhile isNameChar) = '(' :: body := rfl
    have hend : (" (".toList ++ body).takeWhile isNameChar = [] := rfl
    rw [List.append_assoc, List.append_assoc, List.cons_append, readHead?_create h.1,
      List.dropWhile_append_of_pos hchars, List.takeWhile_append_of_pos hchars, hbody, hend,
      List.append_nil]
    rfl

/-- A name that is cut short by a minus cannot be read. -/
theorem readHead?_minus {name : List Char} (h : isTableName name = true) (rest : List Char) :
    readHead? ("CREATE TABLE ".toList ++ (name ++ '-' :: rest)) = none := by
  cases name with
  | nil => cases h
  | cons c cs =>
    rw [isTableName, Bool.and_eq_true] at h
    have hchars : ∀ d ∈ cs, isNameChar d = true := List.all_eq_true.1 h.2
    have hrest : Text.trimStart (('-' :: rest).dropWhile isNameChar) = '-' :: rest := rfl
    rw [List.cons_append, readHead?_create h.1, List.dropWhile_append_of_pos hchars, hrest]
    rfl

theorem splitAtLastParen?_append (body : List Char) :
    splitAtLastParen? (body ++ [')']) = some (body, []) := by
  rw [splitAtLastParen?, List.reverse_append, List.reverse_singleton, List.singleton_append,
    List.dropWhile_cons_of_neg (by decide), List.takeWhile_cons_of_neg (by decide)]
  simp

end Sql

/-- The table is read from the definition that is written for it. -/
structure Table.IsNormal (table : Table) : Prop where
  name : Sql.isTableName table.name.toList = true
  columns : table.columns ≠ []
  readable : ∀ column ∈ table.columns, column.IsReadable
  pieces : Sql.ArePieces (table.columns.map fun column => column.definition.toList)
  indexes : table.indexes = []

/-- The definition of the table can be taken apart again. -/
structure Table.IsReadable (table : Table) : Prop where
  name : Sql.isPlain table.name.toList = true
  columns : table.columns ≠ []
  readable : ∀ column ∈ table.columns, column.IsReadable
  nested : ∀ column ∈ table.columns, Sql.isNested 0 column.definition.toList = true
  indexes : table.indexes = []

theorem Table.IsReadable.isNormal {table : Table} (h : table.IsReadable) : table.IsNormal where
  name := Sql.isTableName_of_isPlain h.name
  columns := h.columns
  readable := h.readable
  pieces := Sql.arePieces_of_isNested (List.forall_mem_map.2 h.nested)
  indexes := h.indexes

namespace Table

theorem toList_createStatement (table : Table) :
    table.createStatement.toList = "CREATE TABLE ".toList ++ table.name.toList ++ " (".toList ++
      ([',', ' '].intercalate (table.columns.map fun column => column.definition.toList) ++
        [')']) := by
  unfold createStatement
  simp [String.toList_intercalate, Function.comp_def]

theorem filterMap_blank_definition {columns : List Column}
    (h : ∀ column ∈ columns, column.IsReadable) :
    (columns.map fun column => ' ' :: column.definition.toList).filterMap Sql.readColumn? =
      columns := by
  induction columns with
  | nil => rfl
  | cons column columns ih =>
    rw [List.map_cons, List.filterMap_cons, Sql.readColumn?_blank,
      (h column List.mem_cons_self).readColumn?_definition,
      ih fun c hc => h c (List.mem_cons_of_mem column hc)]

/-- The columns are found in their joined definitions. -/
theorem filterMap_topLevelPieces {columns : List Column} (hne : columns ≠ [])
    (hreadable : ∀ column ∈ columns, column.IsReadable)
    (hpieces : Sql.ArePieces (columns.map fun column => column.definition.toList)) :
    (Sql.topLevelPieces 0 ([',', ' '].intercalate
      (columns.map fun column => column.definition.toList))).filterMap Sql.readColumn? =
        columns := by
  cases columns with
  | nil => exact absurd rfl hne
  | cons column columns =>
    rw [List.map_cons] at hpieces ⊢
    rw [Sql.topLevelPieces_intercalate hpieces, List.map_map, List.filterMap_cons,
      (hreadable column List.mem_cons_self).readColumn?_definition]
    exact congrArg (column :: ·)
      (filterMap_blank_definition fun c hc => hreadable c (List.mem_cons_of_mem column hc))

/-- A normal table is read from its definition. -/
theorem IsNormal.read_back {table : Table} (h : table.IsNormal) :
    Table.ofCreateStatement? table.createStatement = some table := by
  have hcolumns := filterMap_topLevelPieces h.columns h.readable h.pieces
  have hsome : (!table.columns.isEmpty) = true := by simp [h.columns]
  rw [Table.ofCreateStatement?, Sql.readTable?, toList_createStatement,
    Sql.readHead?_append h.name, Option.bind_eq_bind, Option.bind_some]
  dsimp only
  rw [Sql.splitAtLastParen?_append, Option.bind_some]
  dsimp only
  rw [hcolumns, hsome, String.ofList_toList, if_pos (by decide), Table.plain, ← h.indexes]

/-- **A readable table is read from its definition.** -/
theorem ofCreateStatement?_createStatement {table : Table} (h : table.IsReadable) :
    Table.ofCreateStatement? table.createStatement = some table :=
  h.isNormal.read_back

end Table

/-! ## Plainly declared columns -/

/-- A column with a name without blanks, commas and parentheses, and a declared type whose
parentheses match, with commas only inside of them. -/
structure Column.IsPlainlyDeclared (column : Column) : Prop where
  name_ne : column.name ≠ ""
  name_chars : ∀ c ∈ column.name.toList,
    Text.isBlank c = false ∧ c ≠ '(' ∧ c ≠ ')' ∧ c ≠ ','
  type_ne : column.declaredType ≠ ""
  type_trimmed : Text.trimmed column.declaredType = column.declaredType
  type_nested : Sql.isNested 0 column.declaredType.toList = true
  type_opened : column.nullable = true → ¬Sql.EndsInNotNull column.declaredType.toList
  sorted : column.semanticType = .ofDeclared column.declaredType

/-- A table without indexes, with a plain name and plainly declared columns. -/
structure Table.IsPlainlyDefined (table : Table) : Prop where
  name : Sql.isPlain table.name.toList = true
  columns : table.columns ≠ []
  declared : ∀ column ∈ table.columns, column.IsPlainlyDeclared
  indexes : table.indexes = []

theorem Sql.isPlain_chars {cs : List Char} (h : isPlain cs = true) :
    ∀ c ∈ cs, Text.isBlank c = false ∧ c ≠ '(' ∧ c ≠ ')' ∧ c ≠ ',' := by
  intro c hc
  have hchar := isPlain_all h c hc
  refine ⟨isBlank_of_isWordChar hchar, ?_, ?_, ?_⟩ <;>
    · rintro rfl
      exact absurd hchar (by decide)

namespace Column.IsPlainlyDeclared

variable {column : Column} (h : column.IsPlainlyDeclared)

include h

theorem isReadable : column.IsReadable where
  name := ⟨by simpa using h.name_ne, fun c hc => (h.name_chars c hc).1⟩
  type := by
    rw [Text.isTight_iff, ← String.toList_ofList (l := Text.trim _)]
    exact congrArg String.toList h.type_trimmed
  typed _ := by simpa using h.type_ne
  opened := h.type_opened
  sorted := h.sorted

theorem isNested_definition : Sql.isNested 0 column.definition.toList = true := by
  have hname := Sql.isNested_of_forall fun c hc => (h.name_chars c hc).2
  have hclosing : Sql.isNested 0 column.closing = true := by
    unfold Column.closing
    cases column.nullable with
    | true => rfl
    | false => decide
  rw [column.toList_definition]
  exact Sql.isNested_append hname (Sql.isNested_append h.type_nested hclosing)

end Column.IsPlainlyDeclared

theorem Table.IsPlainlyDefined.isReadable {table : Table} (h : table.IsPlainlyDefined) :
    table.IsReadable where
  name := h.name
  columns := h.columns
  readable column hcolumn := (h.declared column hcolumn).isReadable
  nested column hcolumn := (h.declared column hcolumn).isNested_definition
  indexes := h.indexes

end RowParity
