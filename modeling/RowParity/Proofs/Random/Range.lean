import RowParity.Proofs.Session.Frame
import RowParity.Random.Source

/-!
# Draws stay within their bounds

A word of a width is below the size of the width, and a range is sampled from words by a product
that is cut down to the range and corrected at most once. The correction never leads out of the
range (`below_lt`), and a range as large as the width takes the words as they are (`within_mem`).
-/

namespace RowParity.Random

variable {w : Width} {source : Source}

/-! ## Words -/

theorem word32_lt (source : Source) : (word32 source).1 < 4294967296 :=
  UInt32.toNat_lt _

theorem word64_lt (source : Source) : (word64 source).1 < 18446744073709551616 := by
  have hlow := word32_lt source
  have hhigh := word32_lt (word32 source).2
  have hword : (word64 source).1 =
      (word32 source).1 + 4294967296 * (word32 (word32 source).2).1 := rfl
  omega

theorem Width.word_lt (w : Width) (source : Source) : (w.word source).1 < w.size := by
  cases w with
  | narrow => exact word32_lt source
  | wide => exact word64_lt source

/-- Half the size of the width: signed values reach from `-half` to below `half`. -/
def Width.half (w : Width) : Nat :=
  Number.twoTo (w.bits - 1)

theorem Width.size_eq (w : Width) : w.size = 2 * w.half := by
  cases w <;> rfl

/-- The value fits into the width, as a signed number. -/
def Width.Holds (w : Width) (n : Int) : Prop :=
  -(w.half : Int) ≤ n ∧ n < w.half

instance (w : Width) (n : Int) : Decidable (w.Holds n) :=
  inferInstanceAs (Decidable (_ ∧ _))

theorem Width.signed_holds {n : Nat} (h : n < w.size) : w.Holds (w.signed n) := by
  have hsize := w.size_eq
  unfold Holds signed
  split <;> omega

/-! ## Ranges -/

theorem below_apply (w : Width) (n : Nat) (source : Source) :
    below w n source =
      let first := w.word source
      let product := first.1 * n
      if w.size - n < product % w.size then
        let second := w.word first.2
        (if w.size ≤ product % w.size + second.1 * n / w.size then product / w.size + 1
          else product / w.size, second.2)
      else (product / w.size, first.2) := by
  unfold below
  rw [Draw.bind_apply]
  dsimp only
  by_cases hlow : w.size - n < (w.word source).1 * n % w.size
  · rw [if_pos hlow, if_pos hlow]
    rfl
  · rw [if_neg hlow, if_neg hlow]
    rfl

/-- The product of a word and the count, cut down to the width, leaves room for the correction
wherever one is made. -/
theorem quotient_lt {word n size : Nat} (hword : word < size) (hn : 0 < n) :
    word * n / size < n ∧ (size - n < word * n % size → word * n / size + 1 < n) := by
  have hquotient : word * n / size < n :=
    Nat.div_lt_of_lt_mul (Nat.mul_lt_mul_of_pos_right hword hn)
  refine ⟨hquotient, fun hlow => ?_⟩
  by_cases hlast : word * n / size + 1 = n
  · -- Then the rest of the product is at most `size - n`.
    have hsplit := Nat.div_add_mod (word * n) size
    have hproduct : (word + 1) * n ≤ size * n := Nat.mul_le_mul_right n hword
    have hmul : size * n = size * (word * n / size) + size := by
      rw [← Nat.mul_succ, Nat.succ_eq_add_one, hlast]
    rw [Nat.succ_mul] at hproduct
    omega
  · omega

theorem below_lt {n : Nat} (hn : 0 < n) (source : Source) : (below w n source).1 < n := by
  obtain ⟨hquotient, hcorrected⟩ := quotient_lt (w.word_lt source) hn
  rw [below_apply]
  dsimp only
  split
  · next hlow =>
    have hroom := hcorrected hlow
    split
    · exact hroom
    · exact hquotient
  · exact hquotient

theorem within_apply (w : Width) (low high : Int) (source : Source) :
    within w low high source =
      let count := (high - low + 1).toNat % w.size
      if count = 0 then (w.signed (w.word source).1, (w.word source).2)
      else (low + (below w count source).1, (below w count source).2) := by
  unfold within
  by_cases hcount : (high - low + 1).toNat % w.size = 0
  · simp only [hcount, if_true]
    rfl
  · simp only [hcount, if_false]
    rfl

/-- A draw from a range of the width lies in the range. -/
theorem within_mem {low high : Int} (h : low ≤ high) (hlow : w.Holds low) (hhigh : w.Holds high)
    (source : Source) :
    low ≤ (within w low high source).1 ∧ (within w low high source).1 ≤ high := by
  obtain ⟨hleast, -⟩ := hlow
  obtain ⟨-, hgreatest⟩ := hhigh
  have hsize := w.size_eq
  rw [within_apply]
  dsimp only
  by_cases hfull : (high - low + 1).toNat = w.size
  · -- The range is the whole width.
    obtain ⟨hlower, hupper⟩ := Width.signed_holds (w.word_lt source)
    rw [hfull, Nat.mod_self, if_pos rfl]
    omega
  · have hcount : (high - low + 1).toNat % w.size = (high - low + 1).toNat :=
      Nat.mod_eq_of_lt (by omega)
    have hpos : 0 < (high - low + 1).toNat := by omega
    have hbelow := below_lt (w := w) hpos source
    rw [hcount, if_neg (by omega)]
    omega

theorem int32_mem (source : Source) : Width.narrow.Holds (int32 source).1 :=
  Width.signed_holds (word32_lt source)

theorem int32In_mem {a b : Int} (ha : Width.narrow.Holds a) (hb : Width.narrow.Holds b)
    (source : Source) :
    min a b ≤ (int32In a b source).1 ∧ (int32In a b source).1 ≤ max a b := by
  have hmin : Width.narrow.Holds (min a b) := by unfold Width.Holds at *; omega
  have hmax : Width.narrow.Holds (max a b) := by unfold Width.Holds at *; omega
  exact within_mem (by omega) hmin hmax source

theorem int64In_mem {a b : Int} (ha : Width.wide.Holds a) (hb : Width.wide.Holds b)
    (source : Source) :
    min a b ≤ (int64In a b source).1 ∧ (int64In a b source).1 ≤ max a b := by
  have hmin : Width.wide.Holds (min a b) := by unfold Width.Holds at *; omega
  have hmax : Width.wide.Holds (max a b) := by unfold Width.Holds at *; omega
  exact within_mem (by omega) hmin hmax source

/-! ## Choices and strings -/

theorem choose_mem {α : Type} {xs : List α} {source : Source} {x : α}
    (h : (choose xs source).1 = some x) : x ∈ xs := by
  cases xs with
  | nil => cases h
  | cons y ys => exact List.mem_of_getElem? h

/-- The index of a choice lies in the list, also if the length does not fit into the width. -/
theorem index_lt (n : Nat) (source : Source) : (within .narrow 0 n source).1.toNat < n + 1 := by
  have hsize : Width.narrow.size = 4294967296 := rfl
  have hhalf : (Width.narrow.half : Int) = 2147483648 := rfl
  rw [within_apply]
  dsimp only
  rw [hsize]
  by_cases hcount : ((n : Int) - 0 + 1).toNat % 4294967296 = 0
  · -- A full range has a word as its index, which is smaller than any such length.
    obtain ⟨-, hword⟩ := Width.signed_holds (Width.narrow.word_lt source)
    rw [if_pos hcount]
    omega
  · have hbelow := below_lt (w := .narrow) (Nat.pos_of_ne_zero hcount) source
    rw [if_neg hcount]
    omega

/-- Only from an empty list nothing is chosen. -/
theorem choose_eq_none_iff {α : Type} {xs : List α} {source : Source} :
    (choose xs source).1 = none ↔ xs = [] := by
  cases xs with
  | nil => exact ⟨fun _ => rfl, fun _ => rfl⟩
  | cons x xs =>
    have hchoose : (choose (x :: xs) source).1 =
        (x :: xs)[(within .narrow 0 xs.length source).1.toNat]? := rfl
    have hindex := index_lt xs.length source
    rw [hchoose, List.getElem?_eq_none_iff, List.length_cons]
    exact ⟨fun hlong => absurd hindex (Nat.not_lt.2 hlong), nofun⟩

theorem letters_succ (n : Nat) (source : Source) :
    (letters (n + 1) source).1 =
      (choose alphabet source).1.toList ++ (letters n (choose alphabet source).2).1 :=
  rfl

theorem toList_shortString (source : Source) :
    (shortString source).1.toList =
      (letters (within .narrow 0 maxStringLength source).1.toNat
        (within .narrow 0 maxStringLength source).2).1 :=
  String.toList_ofList

/-- The length that is drawn for a string. -/
theorem length_mem (source : Source) :
    0 ≤ (within .narrow 0 maxStringLength source).1 ∧
      (within .narrow 0 maxStringLength source).1 ≤ maxStringLength :=
  within_mem (by decide) (by decide) (by decide) source

/-- There are as many letters as asked for, all of them from the alphabet. -/
theorem letters_spec (n : Nat) (source : Source) :
    (letters n source).1.length = n ∧ ∀ c ∈ (letters n source).1, c ∈ alphabet := by
  induction n generalizing source with
  | zero => exact ⟨rfl, List.forall_mem_nil _⟩
  | succ n ih =>
    obtain ⟨hlength, hmem⟩ := ih (choose alphabet source).2
    rw [letters_succ]
    cases hletter : (choose alphabet source).1 with
    | none =>
      have hempty : alphabet ≠ [] := by decide
      exact absurd (choose_eq_none_iff.1 hletter) hempty
    | some letter =>
      exact ⟨congrArg Nat.succ hlength, List.forall_mem_cons.2 ⟨choose_mem hletter, hmem⟩⟩

/-- A short string has as many letters as were drawn for it. -/
theorem length_shortString (source : Source) :
    ((shortString source).1.toList.length : Int) = (within .narrow 0 maxStringLength source).1 := by
  obtain ⟨hleast, -⟩ := length_mem source
  obtain ⟨hlength, -⟩ := letters_spec (within .narrow 0 maxStringLength source).1.toNat
    (within .narrow 0 maxStringLength source).2
  rw [toList_shortString, hlength, Int.toNat_of_nonneg hleast]

theorem shortString_spec (source : Source) :
    (shortString source).1.toList.length ≤ maxStringLength ∧
      ∀ c ∈ (shortString source).1.toList, c ∈ alphabet := by
  obtain ⟨-, hmost⟩ := length_mem source
  rw [← length_shortString] at hmost
  refine ⟨Int.ofNat_le.1 hmost, ?_⟩
  rw [toList_shortString]
  exact (letters_spec _ _).2

end RowParity.Random
