import RowParity.Proofs.Text.Words

/-!
# Tokens

A lexer for statement texts, as a machine that reads one character at a time. A word is a maximal
run of letters, digits and underscores; a quoted part runs to the next quote that is not doubled,
and a doubled quote stands for one; every other character that is no blank is a symbol.

A blank after a complete text is a border: the tokens on both sides of it do not depend on each
other (`tokens?_append_blank`).
-/

namespace RowParity.Sql

/-! ## Characters and names -/

def isLetter (c : Char) : Bool :=
  c.isAlpha || c == '_'

def isWordChar (c : Char) : Bool :=
  isLetter c || c.isDigit

theorem isWordChar_of_isLetter {c : Char} (h : isLetter c = true) : isWordChar c = true := by
  rw [isWordChar, h, Bool.true_or]

theorem isWordChar_of_isDigit {c : Char} (h : c.isDigit = true) : isWordChar c = true := by
  rw [isWordChar, h, Bool.or_true]

theorem toNat_cases_of_isAlpha {c : Char} (h : c.isAlpha = true) :
    (65 ≤ c.toNat ∧ c.toNat ≤ 90) ∨ (97 ≤ c.toNat ∧ c.toNat ≤ 122) := by
  have hcases : (decide ('A'.val ≤ c.val ∧ c.val ≤ 'Z'.val) ||
      decide ('a'.val ≤ c.val) && decide (c.val ≤ 'z'.val)) = true := h
  simp only [Bool.or_eq_true, Bool.and_eq_true, decide_eq_true_eq, UInt32.le_iff_toNat_le]
    at hcases
  exact hcases

theorem toNat_of_isAlpha {c : Char} (h : c.isAlpha = true) : 65 ≤ c.toNat ∧ c.toNat ≤ 122 := by
  have hcases := toNat_cases_of_isAlpha h
  omega

theorem toNat_of_isWordChar {c : Char} (h : isWordChar c = true) :
    48 ≤ c.toNat ∧ c.toNat ≤ 122 := by
  rw [isWordChar, isLetter, Bool.or_eq_true, Bool.or_eq_true, beq_iff_eq] at h
  rcases h with (h | rfl) | h
  · have hcode := toNat_of_isAlpha h
    omega
  · decide
  · have hcode := Char.isDigit_iff_toNat.1 h
    change 48 ≤ c.toNat ∧ c.toNat ≤ 57 at hcode
    omega

theorem isBlank_of_isWordChar {c : Char} (h : isWordChar c = true) : Text.isBlank c = false := by
  have hcode := toNat_of_isWordChar h
  simp only [Text.isBlank, Bool.or_eq_false_iff, Bool.and_eq_false_iff, decide_eq_false_iff_not,
    beq_eq_false_iff_ne]
  omega

/-- A plain identifier: a letter or underscore, then letters, digits and underscores. -/
def isPlain : List Char → Bool
  | [] => false
  | c :: cs => isLetter c && cs.all isWordChar

theorem isPlain_all {cs : List Char} (h : isPlain cs = true) : ∀ c ∈ cs, isWordChar c = true := by
  cases cs with
  | nil => simp
  | cons c cs =>
    simp only [isPlain, Bool.and_eq_true, List.all_eq_true] at h
    exact List.forall_mem_cons.2 ⟨isWordChar_of_isLetter h.1, h.2⟩

theorem isPlain_isWord {cs : List Char} (h : isPlain cs = true) : Text.IsWord cs where
  ne_nil := by
    rintro rfl
    cases h
  solid c hc := isBlank_of_isWordChar (isPlain_all h c hc)

/-! ## The machine -/

inductive Token where
  | word (text : List Char)
  | text (value : List Char)
  | name (value : List Char)
  | symbol (c : Char)
  deriving DecidableEq, Repr

inductive Quote where
  | single
  | double
  deriving DecidableEq, Repr

namespace Quote

def char : Quote → Char
  | single => '\''
  | double => '"'

def ofChar? (c : Char) : Option Quote :=
  if c = '\'' then some single else if c = '"' then some double else none

/-- The token of a part with this value between quotes. -/
def token (value : List Char) : Quote → Token
  | single => .text value
  | double => .name value

theorem blank_ne_char (quote : Quote) : ' ' ≠ quote.char := by
  cases quote <;> decide

end Quote

inductive Scan where
  | between
  /-- In a word, of which this has been read. -/
  | word (text : List Char)
  /-- In a quoted part, of whose value this has been read. -/
  | quoted (quote : Quote) (value : List Char)
  /-- After a quote that either ends the value or is the first of a doubled one. -/
  | closing (quote : Quote) (value : List Char)
  deriving DecidableEq, Repr

namespace Scan

/-- The tokens that end where the lexer stands; none if it stands in a quoted part. -/
def finish? : Scan → Option (List Token)
  | between => some []
  | word text => some [.word text]
  | quoted .. => none
  | closing quote value => some [quote.token value]

/-- Reads a character that goes on with no token. -/
def start (c : Char) : List Token × Scan :=
  if Text.isBlank c then ([], between)
  else if isWordChar c then ([], word [c])
  else
    match Quote.ofChar? c with
    | some quote => ([], quoted quote [])
    | none => ([.symbol c], between)

/-- Reads one character: the tokens that are complete now, and where the lexer stands. -/
def step : Scan → Char → List Token × Scan
  | between, c => start c
  | word text, c =>
    if isWordChar c then ([], word (text ++ [c]))
    else (.word text :: (start c).1, (start c).2)
  | quoted quote value, c =>
    if c = quote.char then ([], closing quote value) else ([], quoted quote (value ++ [c]))
  | closing quote value, c =>
    if c = quote.char then ([], quoted quote (value ++ [c]))
    else (quote.token value :: (start c).1, (start c).2)

def run : Scan → List Char → List Token × Scan
  | scan, [] => ([], scan)
  | scan, c :: cs =>
    let first := scan.step c
    let others := run first.2 cs
    (first.1 ++ others.1, others.2)

theorem run_append (scan : Scan) (cs ds : List Char) :
    scan.run (cs ++ ds) =
      ((scan.run cs).1 ++ ((scan.run cs).2.run ds).1, ((scan.run cs).2.run ds).2) := by
  induction cs generalizing scan with
  | nil => rfl
  | cons c cs ih => simp only [List.cons_append, run, ih, List.append_assoc]

theorem run_word {cs : List Char} (h : ∀ c ∈ cs, isWordChar c = true) (text : List Char) :
    (word text).run cs = ([], word (text ++ cs)) := by
  induction cs generalizing text with
  | nil => rw [run, List.append_nil]
  | cons c cs ih =>
    have hcs := ih (fun d hd => h d (List.mem_cons_of_mem c hd)) (text ++ [c])
    rw [run, step, if_pos (h c List.mem_cons_self), hcs, List.append_assoc]
    rfl

/-- A blank ends whatever is complete. -/
theorem step_blank {scan : Scan} {ts : List Token} (h : scan.finish? = some ts) :
    scan.step ' ' = (ts, between) := by
  cases scan with
  | between | word _ =>
    cases h
    rfl
  | quoted _ _ => cases h
  | closing quote value =>
    cases h
    rw [step, if_neg quote.blank_ne_char]
    rfl

end Scan

/-- The tokens of a text; there are none if a quoted part does not end. -/
def tokens? (cs : List Char) : Option (List Token) :=
  let read := Scan.between.run cs
  read.2.finish?.map (read.1 ++ ·)

theorem tokens?_eq_some {cs : List Char} {ts : List Token} (h : tokens? cs = some ts) :
    ∃ last, (Scan.between.run cs).2.finish? = some last ∧ (Scan.between.run cs).1 ++ last = ts := by
  obtain ⟨last, hlast, rfl⟩ := Option.map_eq_some_iff.1 h
  exact ⟨last, hlast, rfl⟩

/-- **A blank is a border.** The tokens before and after a blank outside of quotes are read
independently. -/
theorem tokens?_append_blank {cs : List Char} {ts : List Token} (h : tokens? cs = some ts)
    (ds : List Char) : tokens? (cs ++ ' ' :: ds) = (tokens? ds).map (ts ++ ·) := by
  obtain ⟨last, hlast, rfl⟩ := tokens?_eq_some h
  unfold tokens?
  rw [Scan.run_append, Scan.run, Scan.step_blank hlast]
  simp [Function.comp_def]

theorem tokens?_word {cs : List Char} (hne : cs ≠ []) (h : ∀ c ∈ cs, isWordChar c = true) :
    tokens? cs = some [.word cs] := by
  cases cs with
  | nil => exact absurd rfl hne
  | cons c cs =>
    have hc := h c List.mem_cons_self
    have hstart : Scan.start c = ([], .word [c]) := by
      rw [Scan.start, if_neg (by simp [isBlank_of_isWordChar hc]), if_pos hc]
    unfold tokens?
    rw [Scan.run, Scan.step, hstart, Scan.run_word fun d hd => h d (List.mem_cons_of_mem c hd)]
    rfl

theorem tokens?_plain {cs : List Char} (h : isPlain cs = true) : tokens? cs = some [.word cs] :=
  tokens?_word (isPlain_isWord h).ne_nil (isPlain_all h)

/-- The tokens of several pieces with single blanks between them. -/
theorem tokens?_unwords {pieces : List (List Char)} {tokensOf : List Char → List Token}
    (hne : pieces ≠ []) (h : ∀ piece ∈ pieces, tokens? piece = some (tokensOf piece)) :
    tokens? (Text.unwords pieces) = some (pieces.flatMap tokensOf) := by
  induction pieces with
  | nil => exact absurd rfl hne
  | cons piece pieces ih =>
    have hpiece := h piece List.mem_cons_self
    by_cases hrest : pieces = []
    · rw [hrest, List.flatMap_singleton]
      exact hpiece
    · have hothers := ih hrest fun other hother => h other (List.mem_cons_of_mem piece hother)
      rw [Text.unwords_cons hrest, tokens?_append_blank hpiece, hothers, List.flatMap_cons]
      rfl

end RowParity.Sql
