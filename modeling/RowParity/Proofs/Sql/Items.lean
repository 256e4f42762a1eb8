import RowParity.Proofs.Sql.Quoted
import RowParity.Proofs.Sql.Token

/-!
# Lists in parentheses

A list of items with commas between them, read by the lexer up to its closing parenthesis. A comma
or a parenthesis within quotes belongs to the item it stands in, so an item is any text that is
clear of them outside of its quoted parts and that leaves no quote open (`IsItem`). The items of a
list are found again, each as it stands (`readList?_join`).
-/

namespace RowParity.Sql

namespace Scan

/-- The lexer stands in a quoted part. -/
def isOpen : Scan → Bool
  | quoted .. => true
  | _ => false

/-- No comma and no closing parenthesis comes outside of quoted parts. -/
def isClear : Scan → List Char → Bool
  | _, [] => true
  | scan, c :: cs => (scan.isOpen || (c != ',' && c != ')')) && (scan.step c).2.isClear cs

theorem isClear_append (scan : Scan) (cs ds : List Char) :
    scan.isClear (cs ++ ds) = (scan.isClear cs && (scan.run cs).2.isClear ds) := by
  induction cs generalizing scan with
  | nil => rfl
  | cons c cs ih => simp only [List.cons_append, isClear, run, ih, Bool.and_assoc]

theorem step_blank_of_closed {scan : Scan} (h : scan.isOpen = false) :
    (scan.step ' ').2 = between := by
  cases scan with
  | between | word _ => rfl
  | quoted _ _ => cases h
  | closing quote value => rw [step, if_neg quote.blank_ne_char]; rfl

theorem step_comma_of_closed {scan : Scan} (h : scan.isOpen = false) :
    (scan.step ',').2 = between := by
  cases scan with
  | between | word _ => rfl
  | quoted _ _ => cases h
  | closing quote value => cases quote <;> rfl

end Scan

/-! ## Reading -/

/-- Reads items up to the parenthesis that closes their list: each item as it stands, and what is
left behind the parenthesis. -/
def readItems? : Scan → List Char → Option (List (List Char) × List Char)
  | _, [] => none
  | scan, c :: cs =>
    if scan.isOpen = false ∧ c = ')' then some ([[]], cs)
    else (readItems? (scan.step c).2 cs).map fun read =>
      if scan.isOpen = false ∧ c = ',' then ([] :: read.1, read.2)
      else (Text.consHead c read.1, read.2)

/-- Reads a list from behind its opening parenthesis: the items without the blanks around them, and
what is left behind the closing one. -/
def readList? (cs : List Char) : Option (List (List Char) × List Char) :=
  (readItems? .between cs).map fun read => (read.1.map Text.trim, read.2)

theorem readItems?_close {scan : Scan} (h : scan.isOpen = false) (cs : List Char) :
    readItems? scan (')' :: cs) = some ([[]], cs) := by
  rw [readItems?, if_pos ⟨h, rfl⟩]

theorem readItems?_comma {scan : Scan} (h : scan.isOpen = false) (cs : List Char) :
    readItems? scan (',' :: cs) =
      (readItems? .between cs).map fun read => ([] :: read.1, read.2) := by
  rw [readItems?, if_neg (by simp), Scan.step_comma_of_closed h]
  simp only [h, and_self, if_true]

theorem readItems?_blank (cs : List Char) :
    readItems? .between (' ' :: cs) =
      (readItems? .between cs).map fun read => (Text.consHead ' ' read.1, read.2) := by
  rw [readItems?, if_neg (by simp)]
  rfl

/-- A clear text goes into the item that stands behind it. -/
theorem readItems?_append {scan : Scan} {cs : List Char} (h : scan.isClear cs = true)
    (ds : List Char) :
    readItems? scan (cs ++ ds) =
      (readItems? (scan.run cs).2 ds).map fun read => (cs.foldr Text.consHead read.1, read.2) := by
  induction cs generalizing scan with
  | nil => simp [Scan.run]
  | cons c cs ih =>
    rw [Scan.isClear, Bool.and_eq_true] at h
    obtain ⟨hc, hcs⟩ := h
    have hclose : ¬(scan.isOpen = false ∧ c = ')') := by
      rintro ⟨hopen, rfl⟩
      rw [hopen] at hc
      cases hc
    have hcomma : ¬(scan.isOpen = false ∧ c = ',') := by
      rintro ⟨hopen, rfl⟩
      rw [hopen] at hc
      cases hc
    rw [List.cons_append, readItems?, if_neg hclose, ih hcs, Scan.run, Option.map_map]
    simp only [if_neg hcomma, Function.comp_def, List.foldr_cons]

/-! ## Items -/

/-- A text that can stand in a list: clear outside of its quoted parts, which all end, and without
blanks around it. -/
structure IsItem (cs : List Char) : Prop where
  clear : Scan.between.isClear cs = true
  closed : (Scan.between.run cs).2.isOpen = false
  tight : Text.IsTight cs

theorem Scan.exists_finish {scan : Scan} (h : scan.isOpen = false) :
    ∃ ts, scan.finish? = some ts := by
  cases scan with
  | quoted => cases h
  | between | word _ | closing _ _ => exact ⟨_, rfl⟩

theorem IsItem.exists_tokens {cs : List Char} (h : IsItem cs) : ∃ ts, tokens? cs = some ts := by
  obtain ⟨last, hlast⟩ := Scan.exists_finish h.closed
  exact ⟨_, Option.map_eq_some_iff.2 ⟨last, hlast, rfl⟩⟩

theorem readItems?_join {item : List Char} {items : List (List Char)}
    (h : ∀ cs ∈ item :: items, IsItem cs) (rest : List Char) :
    readItems? .between ([',', ' '].intercalate (item :: items) ++ ')' :: rest) =
      some (item :: items.map (' ' :: ·), rest) := by
  induction items generalizing item with
  | nil =>
    have hitem := h item List.mem_cons_self
    rw [List.intercalate_singleton, readItems?_append hitem.clear,
      readItems?_close hitem.closed, Option.map_some, Text.foldr_consHead, List.append_nil]
    rfl
  | cons next items ih =>
    have hitem := h item List.mem_cons_self
    have hothers := ih fun cs hcs => h cs (List.mem_cons_of_mem item hcs)
    have hsplit : [',', ' '].intercalate (item :: next :: items) ++ ')' :: rest =
        item ++ ',' :: ' ' :: ([',', ' '].intercalate (next :: items) ++ ')' :: rest) := by
      simp [List.intercalate_cons_cons]
    rw [hsplit, readItems?_append hitem.clear, readItems?_comma hitem.closed, readItems?_blank,
      hothers]
    simp only [Option.map_some, Text.consHead_eq, Text.foldr_consHead, List.append_nil,
      List.map_cons]

/-- **Lists are read back**: each item as it was put in, up to the closing parenthesis. -/
theorem readList?_join {items : List (List Char)} (hne : items ≠ [])
    (h : ∀ cs ∈ items, IsItem cs) (rest : List Char) :
    readList? ([',', ' '].intercalate items ++ ')' :: rest) = some (items, rest) := by
  cases items with
  | nil => exact absurd rfl hne
  | cons item items =>
    have htrim : ∀ cs ∈ items, Text.trim (' ' :: cs) = cs := by
      intro cs hcs
      have htight := (h cs (List.mem_cons_of_mem item hcs)).tight
      rw [Text.trim, Text.trimStart_cons_of_blank (by decide), ← Text.trim, htight.trim_eq]
    have hitems : items.map (Text.trim ∘ (' ' :: ·)) = items := by
      conv => rhs; rw [← List.map_id items]
      exact List.map_congr_left htrim
    rw [readList?, readItems?_join h, Option.map_some, List.map_cons, List.map_map, hitems,
      (h item List.mem_cons_self).tight.trim_eq]

example : readList? "7, 'a,''b)', DATE '2020-01-01') rest".toList =
    some (["7", "'a,''b)'", "DATE '2020-01-01'"].map String.toList, " rest".toList) := by
  decide

/-! ## Texts that are items -/

/-- A character that means nothing to the reader of a list. -/
def isIdle (c : Char) : Bool :=
  c != ',' && c != ')' && (Quote.ofChar? c).isNone

theorem Scan.step_idle {scan : Scan} {c : Char} (h : scan.isOpen = false) (hc : isIdle c = true) :
    (scan.step c).2.isOpen = false := by
  have hquote : Quote.ofChar? c = none := by
    rw [isIdle, Bool.and_eq_true] at hc
    exact Option.isNone_iff_eq_none.1 hc.2
  have hstart : (start c).2.isOpen = false := by
    unfold start
    split
    · rfl
    · split
      · rfl
      · rw [hquote]
        rfl
  cases scan with
  | between => exact hstart
  | word _ =>
    rw [step]
    split
    · rfl
    · exact hstart
  | quoted _ _ => cases h
  | closing quote _ =>
    have hne : c ≠ quote.char := by
      rintro rfl
      cases quote <;> cases hquote
    rw [step, if_neg hne]
    exact hstart

theorem Scan.isClear_idle {scan : Scan} {cs : List Char} (h : scan.isOpen = false)
    (hcs : ∀ c ∈ cs, isIdle c = true) :
    scan.isClear cs = true ∧ (scan.run cs).2.isOpen = false := by
  induction cs generalizing scan with
  | nil => exact ⟨rfl, h⟩
  | cons c cs ih =>
    have hc := hcs c List.mem_cons_self
    obtain ⟨hclear, hclosed⟩ :=
      ih (step_idle h hc) fun d hd => hcs d (List.mem_cons_of_mem c hd)
    simp only [isIdle, Bool.and_eq_true] at hc
    refine ⟨?_, hclosed⟩
    rw [isClear, hclear, hc.1.1, hc.1.2]
    simp

theorem isItem_idle {cs : List Char} (h : ∀ c ∈ cs, isIdle c = true) (htight : Text.IsTight cs) :
    IsItem cs := by
  have hbetween : Scan.between.isOpen = false := rfl
  obtain ⟨hclear, hclosed⟩ := Scan.isClear_idle hbetween h
  exact ⟨hclear, hclosed, htight⟩

theorem isIdle_of_isWordChar {c : Char} (h : isWordChar c = true) : isIdle c = true := by
  have hcode := toNat_of_isWordChar h
  have hne : ∀ d : Char, d.toNat < 48 → c ≠ d := by
    rintro d hd rfl
    omega
  rw [isIdle, Quote.ofChar?, if_neg (hne _ (by decide)), if_neg (hne _ (by decide))]
  simp [hne]

/-- Plain names are items. -/
theorem isItem_plain {cs : List Char} (h : isPlain cs = true) : IsItem cs := by
  have hidle : ∀ c ∈ cs, isIdle c = true := fun c hc => isIdle_of_isWordChar (isPlain_all h c hc)
  exact isItem_idle hidle (isPlain_isWord h).solid.isTight

/-- Doubled marks do not end a quoted part. -/
theorem Scan.run_doubled (quote : Quote) (value cs : List Char) :
    (quoted quote value).isClear (doubled quote.char cs) = true ∧
      (quoted quote value).run (doubled quote.char cs) = ([], quoted quote (value ++ cs)) := by
  induction cs generalizing value with
  | nil => exact ⟨rfl, by rw [doubled, run, List.append_nil]⟩
  | cons c cs ih =>
    obtain ⟨hclear, hrun⟩ := ih (value ++ [c])
    by_cases hc : c = quote.char
    · have hmark : (quote.char != ',' && quote.char != ')') = true := by cases quote <;> rfl
      rw [hc] at hclear hrun
      rw [doubled, if_pos hc, hc]
      simp only [isClear, run, step, if_true, isOpen, hmark, hclear, hrun]
      simp
    · rw [doubled, if_neg hc]
      simp only [isClear, run, step, if_neg hc, isOpen, hclear, hrun]
      simp

theorem Scan.run_enclosed (quote : Quote) (cs : List Char) :
    between.isClear (enclosed quote.char cs) = true ∧
      between.run (enclosed quote.char cs) = ([], closing quote cs) := by
  obtain ⟨hclear, hrun⟩ := run_doubled quote [] cs
  have hmark : (quote.char != ',' && quote.char != ')') = true := by cases quote <;> rfl
  have hstart : between.step quote.char = ([], quoted quote []) := by cases quote <;> rfl
  have hend : (quoted quote cs).step quote.char = ([], closing quote cs) := by rw [step, if_pos rfl]
  rw [List.nil_append] at hrun
  rw [enclosed, isClear, run, hstart, isClear_append, run_append, hclear, hrun, hmark]
  exact ⟨rfl, by rw [run, run, hend]; rfl⟩

/-- Quoted texts are items. -/
theorem isItem_enclosed (quote : Quote) (cs : List Char) : IsItem (enclosed quote.char cs) := by
  obtain ⟨hclear, hrun⟩ := Scan.run_enclosed quote cs
  have hmark : Text.isBlank quote.char = false := by cases quote <;> decide
  refine ⟨hclear, by rw [hrun]; rfl, ⟨?_, ?_⟩⟩
  · rintro c ⟨⟩
    exact hmark
  · rw [enclosed, ← List.cons_append, List.getLast?_concat]
    rintro c ⟨⟩
    exact hmark

/-- Two items with a blank between them are one. -/
theorem IsItem.append_blank {cs ds : List Char} (hcs : IsItem cs) (hds : IsItem ds) (hc : cs ≠ [])
    (hd : ds ≠ []) : IsItem (cs ++ ' ' :: ds) := by
  have hblank := Scan.step_blank_of_closed hcs.closed
  refine ⟨?_, ?_, ?_⟩
  · rw [Scan.isClear_append, hcs.clear, Scan.isClear, hblank, hds.clear]
    simp
  · rw [Scan.run_append, Scan.run, hblank]
    exact hds.closed
  · rw [← List.singleton_append, ← List.append_assoc]
    exact hcs.tight.join hds.tight hc hd [' ']

end RowParity.Sql
