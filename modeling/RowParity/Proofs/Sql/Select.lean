import RowParity.Proofs.Sql.Token
import RowParity.Sql.Tautology

/-!
# Queries with a filter

The grammar `SELECT c FROM t [WHERE e]`, where `e` joins conditions `c > 0` and `1=1` by `AND`, and
what such a query answers when `c > 0` is true, false or unknown on each row.

A query is written with single blanks (`Select.text`), and reading gives it back (`read?_text`).
Adding the tautology to the text adds it to the query (`withTautology_text`), which changes no
answer (`answer_add`).
-/

namespace RowParity.Sql

/-! ## Meaning -/

inductive Truth where
  | holds
  | fails
  | unknown
  deriving DecidableEq, Repr

/-- The conjunction: it fails if one side fails, and holds if both sides hold. -/
def Truth.and : Truth → Truth → Truth
  | holds, b => b
  | fails, _ => fails
  | unknown, fails => fails
  | unknown, _ => unknown

inductive Atom where
  | positive
  | tautology
  deriving DecidableEq, Repr

structure Select where
  column : String
  table : String
  filter : List Atom
  deriving DecidableEq, Repr

/-- The truth of a condition, given that of the column being positive. -/
def Atom.truth (positive : Truth) : Atom → Truth
  | .positive => positive
  | .tautology => .holds

namespace Select

/-- The truth of the whole filter. Without conditions it holds. -/
def condition (q : Select) (positive : Truth) : Truth :=
  (q.filter.map (Atom.truth positive)).foldr Truth.and .holds

/-- The rows on which the filter holds. `content` gives the rows of every table, and `positive` says
of every column whether it is positive on a row. -/
def answer {ρ : Type} (content : String → List ρ) (positive : String → ρ → Truth) (q : Select) :
    List ρ :=
  (content q.table).filter fun row => q.condition (positive q.column row) = .holds

def add (q : Select) : Select :=
  { q with filter := q.filter ++ [.tautology] }

theorem condition_add (q : Select) (positive : Truth) :
    q.add.condition positive = q.condition positive := by
  unfold condition add
  rw [List.map_append, List.foldr_append]
  rfl

/-- A condition that always holds changes no answer. -/
theorem answer_add {ρ : Type} (content : String → List ρ) (positive : String → ρ → Truth)
    (q : Select) : q.add.answer content positive = q.answer content positive := by
  unfold answer
  simp only [condition_add]
  rfl

end Select

/-! ## Reading -/

/-- Whether a word is the keyword, in any case of its letters. -/
def isKeyword (keyword : String) (cs : List Char) : Bool :=
  cs.map Char.toLower == keyword.toList

def reserved : List String := ["select", "from", "where", "and"]

/-- A plain identifier that is no keyword. -/
def isIdentifier (cs : List Char) : Bool :=
  isPlain cs && !reserved.any (isKeyword · cs)

/-- The condition in a word, a symbol and a word. -/
def atom? (column left : List Char) (symbol : Char) (right : List Char) : Option Atom :=
  if left = column ∧ symbol = '>' ∧ right = ['0'] then some .positive
  else if left = ['1'] ∧ symbol = '=' ∧ right = ['1'] then some .tautology
  else none

def readConditions? (column : List Char) : List Token → Option (List Atom)
  | [.word left, .symbol s, .word right] => (atom? column left s right).map ([·])
  | .word left :: .symbol s :: .word right :: .word connective :: rest => do
    let atom ← atom? column left s right
    if isKeyword "and" connective then
      let atoms ← readConditions? column rest
      return atom :: atoms
    else none
  | _ => none

def readFilter? (column : List Char) : List Token → Option (List Atom)
  | [] => some []
  | .word keyword :: rest =>
    if isKeyword "where" keyword then readConditions? column rest else none
  | _ => none

namespace Select

def ofTokens? : List Token → Option Select
  | .word select :: .word column :: .word source :: .word table :: rest =>
    if isKeyword "select" select && isIdentifier column && isKeyword "from" source &&
        isIdentifier table then
      (readFilter? column rest).map fun filter =>
        ⟨String.ofList column, String.ofList table, filter⟩
    else none
  | _ => none

def read? (sql : String) : Option Select := do
  ofTokens? (← tokens? sql.toList)

end Select

/-! ## Writing -/

def Atom.pieces (column : List Char) : Atom → List (List Char)
  | positive => [column, ['>'], ['0']]
  | tautology => ["1=1".toList]

/-- Further conditions, each after an `AND`. -/
def furtherPieces (column : List Char) (atoms : List Atom) : List (List Char) :=
  atoms.flatMap fun atom => "AND".toList :: atom.pieces column

def filterPieces (column : List Char) : List Atom → List (List Char)
  | [] => []
  | atom :: atoms => "WHERE".toList :: atom.pieces column ++ furtherPieces column atoms

namespace Select

/-- The query, in pieces that stand between blanks. -/
def pieces (q : Select) : List (List Char) :=
  ["SELECT".toList, q.column.toList, "FROM".toList, q.table.toList] ++
    filterPieces q.column.toList q.filter

def text (q : Select) : String :=
  String.ofList (Text.unwords q.pieces)

/-- Column and table have names that can be read again. -/
structure IsNamed (q : Select) : Prop where
  column : isIdentifier q.column.toList = true
  table : isIdentifier q.table.toList = true

end Select

theorem withoutTerminator_of_notMem {cs : List Char} (h : ';' ∉ cs) :
    withoutTerminator cs = cs := by
  unfold withoutTerminator
  split
  · next rest hreverse =>
    exact absurd (List.mem_reverse.1 (hreverse ▸ List.mem_cons_self)) h
  · rfl

/-! ## Reading what was written -/

theorem isIdentifier_isPlain {cs : List Char} (h : isIdentifier cs = true) : isPlain cs = true := by
  rw [isIdentifier, Bool.and_eq_true] at h
  exact h.1

theorem isIdentifier_not_keyword {cs : List Char} (h : isIdentifier cs = true) {keyword : String}
    (hk : keyword ∈ reserved) : isKeyword keyword cs = false := by
  rw [isIdentifier, Bool.and_eq_true, Bool.not_eq_true', List.any_eq_false] at h
  simpa using h.2 keyword hk

/-- A piece of a written query: a word with tokens of its own and without a terminator. -/
def IsPiece (piece : List Char) : Prop :=
  Text.IsWord piece ∧ (tokens? piece).isSome = true ∧ ';' ∉ piece

instance (piece : List Char) : Decidable (IsPiece piece) :=
  inferInstanceAs (Decidable (_ ∧ _))

def pieceTokens (piece : List Char) : List Token :=
  (tokens? piece).getD []

theorem IsPiece.tokens?_eq {piece : List Char} (h : IsPiece piece) :
    tokens? piece = some (pieceTokens piece) := by
  obtain ⟨ts, hts⟩ := Option.isSome_iff_exists.1 h.2.1
  rw [pieceTokens, hts]
  rfl

theorem isIdentifier_isPiece {cs : List Char} (h : isIdentifier cs = true) : IsPiece cs := by
  refine ⟨isPlain_isWord (isIdentifier_isPlain h), ?_, fun hmem => ?_⟩
  · rw [tokens?_plain (isIdentifier_isPlain h)]
    rfl
  · exact absurd (isPlain_all (isIdentifier_isPlain h) ';' hmem) (by decide)

theorem isIdentifier_pieceTokens {cs : List Char} (h : isIdentifier cs = true) :
    pieceTokens cs = [.word cs] := by
  rw [pieceTokens, tokens?_plain (isIdentifier_isPlain h)]
  rfl

def Atom.tokens (column : List Char) : Atom → List Token
  | positive => [.word column, .symbol '>', .word ['0']]
  | tautology => [.word ['1'], .symbol '=', .word ['1']]

def furtherTokens (column : List Char) (atoms : List Atom) : List Token :=
  atoms.flatMap fun atom => .word "AND".toList :: atom.tokens column

theorem Atom.tokens_eq (column : List Char) (atom : Atom) :
    ∃ left s right, atom.tokens column = [.word left, .symbol s, .word right] ∧
      atom? column left s right = some atom := by
  cases atom with
  | positive => exact ⟨column, '>', ['0'], rfl, by simp [atom?]⟩
  | tautology => exact ⟨['1'], '=', ['1'], rfl, by simp [atom?]⟩

/-- A condition and those that follow it are read again. -/
theorem readConditions?_tokens (column : List Char) (atom : Atom) (atoms : List Atom) :
    readConditions? column (atom.tokens column ++ furtherTokens column atoms) =
      some (atom :: atoms) := by
  induction atoms generalizing atom with
  | nil =>
    obtain ⟨left, s, right, htokens, hatom⟩ := atom.tokens_eq column
    rw [htokens, furtherTokens, List.flatMap_nil, List.append_nil, readConditions?, hatom]
    rfl
  | cons next atoms ih =>
    obtain ⟨left, s, right, htokens, hatom⟩ := atom.tokens_eq column
    have hnext := ih next
    have hand : isKeyword "and" "AND".toList = true := by decide
    unfold furtherTokens at hnext ⊢
    rw [List.flatMap_cons, List.cons_append, htokens, List.cons_append, List.cons_append,
      List.cons_append, List.nil_append, readConditions?, hatom, Option.bind_eq_bind,
      Option.bind_some, if_pos hand, hnext]
    rfl

section Pieces

variable {column : List Char} (h : isIdentifier column = true)

include h

theorem Atom.pieces_isPiece (atom : Atom) : ∀ piece ∈ atom.pieces column, IsPiece piece := by
  cases atom with
  | positive => exact List.forall_mem_cons.2 ⟨isIdentifier_isPiece h, by decide⟩
  | tautology => exact List.forall_mem_singleton.2 (by decide)

theorem Atom.flatMap_pieceTokens (atom : Atom) :
    (atom.pieces column).flatMap pieceTokens = atom.tokens column := by
  cases atom with
  | positive =>
    rw [pieces, List.flatMap_cons, isIdentifier_pieceTokens h]
    rfl
  | tautology => rfl

theorem furtherPieces_isPiece (atoms : List Atom) :
    ∀ piece ∈ furtherPieces column atoms, IsPiece piece := by
  intro piece hpiece
  obtain ⟨atom, -, hmem⟩ := List.mem_flatMap.1 hpiece
  rcases List.mem_cons.1 hmem with rfl | hmem
  · decide
  · exact atom.pieces_isPiece h piece hmem

theorem furtherPieces_flatMap (atoms : List Atom) :
    (furtherPieces column atoms).flatMap pieceTokens = furtherTokens column atoms := by
  induction atoms with
  | nil => rfl
  | cons atom atoms ih =>
    unfold furtherPieces furtherTokens at ih ⊢
    rw [List.flatMap_cons, List.flatMap_append, ih, List.flatMap_cons, List.flatMap_cons,
      atom.flatMap_pieceTokens h]
    rfl

theorem filterPieces_isPiece (atoms : List Atom) :
    ∀ piece ∈ filterPieces column atoms, IsPiece piece := by
  cases atoms with
  | nil => simp [filterPieces]
  | cons atom atoms =>
    refine List.forall_mem_append.2 ⟨List.forall_mem_cons.2 ⟨by decide, ?_⟩, ?_⟩
    · exact atom.pieces_isPiece h
    · exact furtherPieces_isPiece h atoms

theorem readFilter?_pieces (atoms : List Atom) :
    readFilter? column ((filterPieces column atoms).flatMap pieceTokens) = some atoms := by
  cases atoms with
  | nil => rfl
  | cons atom atoms =>
    have hwhere : pieceTokens "WHERE".toList = [.word "WHERE".toList] := by decide
    rw [filterPieces, List.flatMap_append, List.flatMap_cons, hwhere, atom.flatMap_pieceTokens h,
      furtherPieces_flatMap h, List.append_assoc, List.singleton_append, readFilter?,
      if_pos (by decide)]
    exact readConditions?_tokens column atom atoms

end Pieces

namespace Select

/-- What the new condition adds to the pieces. -/
theorem pieces_add (q : Select) :
    q.add.pieces =
      q.pieces ++ [if q.filter.isEmpty then "WHERE".toList else "AND".toList, "1=1".toList] := by
  unfold pieces add
  cases q.filter with
  | nil => rfl
  | cons atom atoms => simp [filterPieces, furtherPieces, Atom.pieces]

variable {q : Select} (h : q.IsNamed)

include h

theorem pieces_isPiece : ∀ piece ∈ q.pieces, IsPiece piece := by
  refine List.forall_mem_append.2 ⟨?_, filterPieces_isPiece h.column q.filter⟩
  simp only [List.forall_mem_cons]
  exact ⟨by decide, isIdentifier_isPiece h.column, by decide, isIdentifier_isPiece h.table,
    by simp⟩

theorem tokens?_text :
    tokens? q.text.toList = some ([.word "SELECT".toList, .word q.column.toList,
      .word "FROM".toList, .word q.table.toList] ++
        (filterPieces q.column.toList q.filter).flatMap pieceTokens) := by
  have hselect : pieceTokens "SELECT".toList = [.word "SELECT".toList] := by decide
  have hfrom : pieceTokens "FROM".toList = [.word "FROM".toList] := by decide
  rw [text, String.toList_ofList, tokens?_unwords (by simp [pieces]) fun piece hpiece =>
    (pieces_isPiece h piece hpiece).tokens?_eq]
  rw [pieces, List.flatMap_append]
  simp only [List.flatMap_cons, hselect, hfrom, isIdentifier_pieceTokens h.column,
    isIdentifier_pieceTokens h.table, List.flatMap_nil, List.append_nil, List.singleton_append]

/-- **A written query is read again.** -/
theorem read?_text : read? q.text = some q := by
  unfold read?
  rw [tokens?_text h, Option.bind_eq_bind, Option.bind_some, List.cons_append, List.cons_append,
    List.cons_append, List.cons_append, List.nil_append, ofTokens?, if_pos ?_,
    readFilter?_pieces h.column]
  · simp
  · rw [h.column, h.table]
    decide

theorem words_text : Text.words q.text.toList = q.pieces := by
  rw [text, String.toList_ofList]
  exact Text.words_unwords fun piece hpiece => (pieces_isPiece h piece hpiece).1

/-! ## Adding the tautology -/

/-- The text has no terminator and no blanks around it. -/
theorem bareChars_text : bareChars q.text.toList = q.text.toList := by
  have hpieces := pieces_isPiece h
  rw [text, String.toList_ofList, bareChars,
    (Text.unwords_isTight fun piece hpiece => (hpieces piece hpiece).1).trim_eq]
  refine withoutTerminator_of_notMem fun hmem => ?_
  obtain hblank | ⟨piece, hpiece, hmem⟩ := Text.mem_unwords hmem
  · exact absurd hblank (by decide)
  · exact (hpieces piece hpiece).2.2 hmem

theorem hasFilter_text : hasFilter q.text.toList = !q.filter.isEmpty := by
  have hcolumn := isIdentifier_not_keyword h.column (by decide : "where" ∈ reserved)
  have htable := isIdentifier_not_keyword h.table (by decide : "where" ∈ reserved)
  rw [hasFilter, words_text h]
  unfold isKeyword at hcolumn htable
  cases hfilter : q.filter with
  | nil =>
    rw [pieces, hfilter, filterPieces, List.append_nil, List.any_cons, List.any_cons, hcolumn,
      List.any_cons, List.any_cons, htable]
    decide
  | cons atom atoms =>
    rw [List.any_eq_true.2 ⟨"WHERE".toList, by simp [pieces, hfilter, filterPieces], by decide⟩]
    rfl

/-- **Adding the tautology to the text adds it to the query.** -/
theorem withTautology_text : withTautology q.text = q.add.text := by
  rw [withTautology, bare, bareChars_text h, String.toList_ofList, tautology, hasFilter_text h]
  unfold text
  rw [pieces_add, Text.unwords_append (by simp [pieces]) (by simp), String.toList_ofList,
    String.ofList_append]
  refine congrArg (String.ofList (Text.unwords q.pieces) ++ ·) ?_
  cases q.filter.isEmpty with
  | true => decide
  | false => decide

end Select

end RowParity.Sql
