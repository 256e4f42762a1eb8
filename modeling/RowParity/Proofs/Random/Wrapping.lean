import Mathlib.Algebra.Group.Nat.Defs
import RowParity.Proofs.Random.Range

/-!
# Draws on machine words

Ranges are sampled in exact numbers. `wrappingIn` makes the same draw on machine words of the width,
where sums and products wrap around, a full range has the count zero, and a carry shows only in a
sum that comes out too small. The two draws are the same (`wrappingIn_eq`): no result leaves the
width, and no step loses a bit that matters. So every bounded draw stays within its bounds, in
whichever order they come (`draws_bounded`).
-/

namespace RowParity.Random

variable {w : Width} {source : Source}

/-! ## The algorithm on words -/

/-- The high word of the product of two words; the low one is their wrapping product. -/
def highProduct {n : Nat} (a b : BitVec n) : BitVec n :=
  (a.setWidth (n + n) * b.setWidth (n + n)).extractLsb' n n

def Width.wrappingWord (w : Width) : Draw (BitVec w.bits) := do
  return BitVec.ofNat w.bits (← w.word)

/-- A word below the count `n`, which is not zero. -/
def wrappingBelow (w : Width) (n : BitVec w.bits) : Draw (BitVec w.bits) := do
  let word ← w.wrappingWord
  let high := highProduct word n
  let low := word * n
  if -n < low then
    let correction := highProduct (← w.wrappingWord) n
    return if low + correction < low then high + 1 else high
  else return high

/-- A word of the closed range between two signed words. The count of a full range is zero. -/
def wrappingWithin (w : Width) (low high : BitVec w.bits) : Draw (BitVec w.bits) := do
  let count := high - low + 1
  if count = 0 then w.wrappingWord
  else return low + (← wrappingBelow w count)

/-- A word between two signed words, which may come in either order. -/
def wrappingIn (w : Width) (a b : BitVec w.bits) : Draw (BitVec w.bits) :=
  if a.sle b then wrappingWithin w a b else wrappingWithin w b a

/-! ## Words and numbers -/

theorem toNat_highProduct {n : Nat} (a b : BitVec n) :
    (highProduct a b).toNat = a.toNat * b.toNat / 2 ^ n := by
  have hproduct : a.toNat * b.toNat < 2 ^ n * 2 ^ n := Nat.mul_lt_mul'' a.isLt b.isLt
  have hhigh : a.toNat * b.toNat / 2 ^ n < 2 ^ n := Nat.div_lt_of_lt_mul hproduct
  -- In the double width nothing wraps around.
  have hwide : 2 ^ n ≤ 2 ^ (n + n) := Nat.pow_le_pow_right (by decide) (Nat.le_add_left n n)
  have ha := Nat.mod_eq_of_lt (Nat.lt_of_lt_of_le a.isLt hwide)
  have hb := Nat.mod_eq_of_lt (Nat.lt_of_lt_of_le b.isLt hwide)
  rw [← Nat.pow_add] at hproduct
  simp only [highProduct, BitVec.extractLsb'_toNat, BitVec.toNat_mul, BitVec.toNat_setWidth,
    Nat.shiftRight_eq_div_pow]
  rw [ha, hb, Nat.mod_eq_of_lt hproduct, Nat.mod_eq_of_lt hhigh]

theorem toNat_neg_of_ne_zero {n : Nat} {x : BitVec n} (h : x ≠ 0) :
    (-x).toNat = 2 ^ n - x.toNat := by
  have hpos : x.toNat ≠ 0 := fun hzero => h (BitVec.eq_of_toNat_eq hzero)
  have hlt := x.isLt
  rw [BitVec.toNat_neg, Nat.mod_eq_of_lt (by omega)]

/-- A sum of words has wrapped around if and only if it comes out below a summand. -/
theorem add_lt_iff_carry {n : Nat} (x y : BitVec n) :
    x + y < x ↔ 2 ^ n ≤ x.toNat + y.toNat := by
  have hx := x.isLt
  have hy := y.isLt
  rw [BitVec.lt_def, BitVec.toNat_add]
  by_cases hcarry : 2 ^ n ≤ x.toNat + y.toNat
  · rw [Nat.mod_eq_sub_mod hcarry, Nat.mod_eq_of_lt (by omega)]
    omega
  · rw [Nat.mod_eq_of_lt (by omega)]
    omega

theorem highProduct_eq (a b : BitVec w.bits) :
    highProduct a b = BitVec.ofNat w.bits (a.toNat * b.toNat / w.size) := by
  have hproduct := toNat_highProduct a b
  change _ = a.toNat * b.toNat / w.size at hproduct
  rw [← hproduct, BitVec.ofNat_toNat, BitVec.setWidth_eq]

/-- The low word of a product calls for a correction where the product of the numbers does. -/
theorem correction_iff {n : BitVec w.bits} (hn : n ≠ 0) (word : BitVec w.bits) :
    -n < word * n ↔ w.size - n.toNat < word.toNat * n.toNat % w.size := by
  rw [BitVec.lt_def, toNat_neg_of_ne_zero hn, BitVec.toNat_mul]
  rfl

theorem carry_iff (n word word' : BitVec w.bits) :
    word * n + highProduct word' n < word * n ↔
      w.size ≤ word.toNat * n.toNat % w.size + word'.toNat * n.toNat / w.size := by
  rw [add_lt_iff_carry, BitVec.toNat_mul, toNat_highProduct]
  rfl

theorem toInt_ofInt_of_holds {i : Int} (h : w.Holds i) : (BitVec.ofInt w.bits i).toInt = i := by
  obtain ⟨hleast, hgreatest⟩ := h
  have hsize : 2 ^ w.bits = 2 * w.half := w.size_eq
  rw [BitVec.toInt_ofInt, hsize]
  apply Int.bmod_eq_of_le <;> omega

theorem holds_toInt (x : BitVec w.bits) : w.Holds x.toInt := by
  have hleast := x.le_toInt
  have hgreatest := @BitVec.toInt_lt w.bits x
  have hhalf : (2 : Int) ^ (w.bits - 1) = w.half := by
    cases w <;> rfl
  rw [hhalf] at hleast hgreatest
  exact ⟨hleast, hgreatest⟩

theorem Width.signed_eq_toInt {n : Nat} (h : n < w.size) :
    w.signed n = (BitVec.ofNat w.bits n).toInt := by
  have hmod : n % 2 ^ w.bits = n := Nat.mod_eq_of_lt h
  rw [BitVec.toInt_eq_toNat_cond, BitVec.toNat_ofNat, hmod]
  rfl

/-- The count of a range of words is that of the numbers, cut down to the width. -/
theorem toNat_count {low high : BitVec w.bits} (h : low.toInt ≤ high.toInt) :
    (high - low + 1).toNat = (high.toInt - low.toInt + 1).toNat % w.size := by
  have hcount : high - low + 1 = BitVec.ofInt w.bits (high.toInt - low.toInt + 1) := by
    rw [Int.sub_eq_add_neg, BitVec.ofInt_add, BitVec.ofInt_add, BitVec.ofInt_neg,
      BitVec.ofInt_toInt, BitVec.ofInt_toInt, BitVec.sub_eq_add_neg]
    rfl
  have hpos : 0 ≤ high.toInt - low.toInt + 1 := by omega
  rw [hcount, BitVec.toNat_ofInt, Int.toNat_emod hpos (Int.natCast_nonneg _)]
  rfl

/-! ## The two draws are the same -/

theorem wrappingBelow_apply (n : BitVec w.bits) (source : Source) :
    wrappingBelow w n source =
      let first := w.wrappingWord source
      let high := highProduct first.1 n
      let low := first.1 * n
      if -n < low then
        let second := w.wrappingWord first.2
        (if low + highProduct second.1 n < low then high + 1 else high, second.2)
      else (high, first.2) := by
  unfold wrappingBelow
  rw [Draw.bind_apply]
  dsimp only
  by_cases hlow : -n < (w.wrappingWord source).1 * n
  · rw [if_pos hlow, if_pos hlow]
    rfl
  · rw [if_neg hlow, if_neg hlow]
    rfl

theorem wrappingWord_apply (w : Width) (source : Source) :
    w.wrappingWord source = (BitVec.ofNat w.bits (w.word source).1, (w.word source).2) :=
  rfl

theorem toNat_word (w : Width) (source : Source) :
    (BitVec.ofNat w.bits (w.word source).1).toNat = (w.word source).1 := by
  rw [BitVec.toNat_ofNat]
  exact Nat.mod_eq_of_lt (w.word_lt source)

/-- The words are corrected where the numbers are, and by as much. -/
theorem wrappingBelow_eq {n : BitVec w.bits} (hn : n ≠ 0) (source : Source) :
    wrappingBelow w n source =
      (BitVec.ofNat w.bits (below w n.toNat source).1, (below w n.toNat source).2) := by
  rw [wrappingBelow_apply, below_apply]
  simp only [wrappingWord_apply, correction_iff hn, carry_iff, toNat_word]
  by_cases hlow : w.size - n.toNat < (w.word source).1 * n.toNat % w.size
  · rw [if_pos hlow, if_pos hlow, highProduct_eq, toNat_word]
    split
    · rw [BitVec.ofNat_add]
      rfl
    · rfl
  · rw [if_neg hlow, if_neg hlow, highProduct_eq, toNat_word]

/-- A draw from a range of words is the draw from the range of numbers. -/
theorem wrappingWithin_eq {low high : BitVec w.bits} (h : low.toInt ≤ high.toInt)
    (source : Source) :
    wrappingWithin w low high source =
      (BitVec.ofInt w.bits (within w low.toInt high.toInt source).1,
        (within w low.toInt high.toInt source).2) := by
  have hcount := toNat_count h
  rw [within_apply]
  unfold wrappingWithin
  dsimp only
  by_cases hfull : high - low + 1 = 0
  · -- The range is the whole width, and a word is taken as it is.
    have hzero : (high.toInt - low.toInt + 1).toNat % w.size = 0 := by
      rw [← hcount, hfull]
      exact BitVec.toNat_zero
    rw [if_pos hfull, if_pos hzero, wrappingWord_apply, Width.signed_eq_toInt (w.word_lt source),
      BitVec.ofInt_toInt]
  · have hnonzero : (high.toInt - low.toInt + 1).toNat % w.size ≠ 0 := by
      rw [← hcount]
      exact fun hzero => hfull (BitVec.eq_of_toNat_eq hzero)
    rw [if_neg hfull, if_neg hnonzero, Draw.bind_apply, wrappingBelow_eq hfull, hcount,
      BitVec.ofInt_add, BitVec.ofInt_toInt, BitVec.ofInt_natCast]
    rfl

theorem wrappingIn_eq (w : Width) (a b : BitVec w.bits) (source : Source) :
    wrappingIn w a b source =
      (BitVec.ofInt w.bits (within w (min a.toInt b.toInt) (max a.toInt b.toInt) source).1,
        (within w (min a.toInt b.toInt) (max a.toInt b.toInt) source).2) := by
  unfold wrappingIn
  by_cases h : a.toInt ≤ b.toInt
  · rw [if_pos (BitVec.sle_iff_toInt_le.2 h), wrappingWithin_eq h, Int.min_eq_left h,
      Int.max_eq_right h]
  · have hle : b.toInt ≤ a.toInt := by omega
    rw [if_neg (mt BitVec.sle_iff_toInt_le.1 h), wrappingWithin_eq hle, Int.min_eq_right hle,
      Int.max_eq_left hle]

/-! ## Bounded draws -/

/-- What holds of a draw between two bounds of the width. -/
structure IsBounded (w : Width) (draw : Int → Int → Draw Int) (source : Source)
    (a b : BitVec w.bits) : Prop where
  min_le : min a.toInt b.toInt ≤ (draw a.toInt b.toInt source).1
  le_max : (draw a.toInt b.toInt source).1 ≤ max a.toInt b.toInt
  /-- Neither the number nor the source afterwards depends on the order of the bounds. -/
  comm : draw b.toInt a.toInt source = draw a.toInt b.toInt source
  /-- On machine words the same number is drawn, and the source afterwards is the same. -/
  exact_words : ((wrappingIn w a b source).1.toInt, (wrappingIn w a b source).2) =
    draw a.toInt b.toInt source

theorem within_isBounded (w : Width) (source : Source) (a b : BitVec w.bits) :
    IsBounded w (fun a b => within w (min a b) (max a b)) source a b := by
  obtain ⟨haleast, hamost⟩ := holds_toInt a
  obtain ⟨hbleast, hbmost⟩ := holds_toInt b
  have hmin : w.Holds (min a.toInt b.toInt) := by
    constructor <;> omega
  have hmax : w.Holds (max a.toInt b.toInt) := by
    constructor <;> omega
  obtain ⟨hlower, hupper⟩ := within_mem (by omega) hmin hmax source
  refine ⟨hlower, hupper, ?_, ?_⟩
  · show within w (min b.toInt a.toInt) (max b.toInt a.toInt) source = _
    rw [Int.min_comm, Int.max_comm]
  · -- The number lies between the bounds, so it is one of the width.
    have hnumber : w.Holds (within w (min a.toInt b.toInt) (max a.toInt b.toInt) source).1 :=
      ⟨Int.le_trans hmin.1 hlower, Int.lt_of_le_of_lt hupper hmax.2⟩
    rw [wrappingIn_eq, toInt_ofInt_of_holds hnumber]
    rfl

/-- **Bounded draws stay within their bounds**, on numbers and on machine words alike, and in
whichever order the bounds come. So a choice from a list that is not empty is a member of it, and a
string has as many letters of the alphabet as were drawn for it, which is no more than the
largest number. -/
theorem draws_bounded (source : Source) :
    (∀ a b : BitVec 32, IsBounded .narrow int32In source a b) ∧
      (∀ a b : BitVec 64, IsBounded .wide int64In source a b) ∧
      (∀ (α : Type) (xs : List α), xs ≠ [] → xs.length < 2 ^ 32 →
        ∃ x ∈ xs, (choose xs source).1 = some x) ∧
      (∀ α : Type, choose ([] : List α) source = (none, source)) ∧
      ((shortString source).1.toList.length : Int) =
        (within .narrow 0 maxStringLength source).1 ∧
      (shortString source).1.toList.length ≤ maxStringLength ∧
      ∀ c ∈ (shortString source).1.toList, c ∈ alphabet := by
  refine ⟨within_isBounded .narrow source, within_isBounded .wide source, fun α xs hxs _ => ?_,
    fun α => rfl, length_shortString source, shortString_spec source⟩
  cases hchosen : (choose xs source).1 with
  | none => exact absurd (choose_eq_none_iff.1 hchosen) hxs
  | some x => exact ⟨x, choose_mem hchosen, rfl⟩

/-- A range as large as the width, with its bounds the wrong way round, and a choice of one from
two. -/
theorem draws_bounded_fullRange :
    IsBounded .narrow int32In (.ofSeed 7) (BitVec.intMax 32) (BitVec.intMin 32) ∧
      ([true, false] ≠ [] ∧ [true, false].length < 2 ^ 32) ∧
      ∃ x ∈ [true, false], (choose [true, false] (.ofSeed 7)).1 = some x := by
  obtain ⟨hnarrow, -, hchoose, -⟩ := draws_bounded (.ofSeed 7)
  have hne : [true, false] ≠ [] := by decide
  have hlength : [true, false].length < 2 ^ 32 := by decide
  exact ⟨hnarrow _ _, ⟨hne, hlength⟩, hchoose Bool _ hne hlength⟩

end RowParity.Random
