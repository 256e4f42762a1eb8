import RowParity.Number.Layout

/-!
# Numerals are read back

A number filled up with zeros still denotes the number (`readNat?_padded`), a whole number is read
back from its text (`readWhole?_toString`), and a finite floating-point number laid out with a fixed
number of places shows digits on both sides of the point, never an exponent (`fixed_shape`).
-/

namespace RowParity.Number

/-- A nonempty run of digits. -/
structure IsNumeral (cs : List Char) : Prop where
  ne_nil : cs ≠ []
  digits : ∀ c ∈ cs, c.isDigit = true

theorem IsNumeral.readNat?_eq {cs : List Char} (h : IsNumeral cs) :
    readNat? cs = some (Nat.ofDigitChars 10 cs 0) := by
  have hempty : cs.isEmpty = false := by simpa using h.ne_nil
  rw [readNat?, hempty, List.all_eq_true.2 h.digits]
  rfl

theorem isNumeral_of_readNat? {cs : List Char} {n : Nat} (h : readNat? cs = some n) :
    IsNumeral cs := by
  rw [readNat?] at h
  split at h
  · cases h
  · next hcond =>
    simp only [Bool.or_eq_true, not_or, Bool.not_eq_true, List.isEmpty_eq_false_iff,
      Bool.not_eq_false', List.all_eq_true] at hcond
    exact ⟨hcond.1, hcond.2⟩

theorem toDigits_isNumeral (n : Nat) : IsNumeral (Nat.toDigits 10 n) where
  ne_nil := Nat.toDigits_ne_nil
  digits _ hc := Nat.isDigit_of_mem_toDigits (by decide) (by decide) hc

theorem readNat?_toDigits (n : Nat) : readNat? (Nat.toDigits 10 n) = some n := by
  rw [(toDigits_isNumeral n).readNat?_eq, Nat.ofDigitChars_ten_toDigits]

theorem toDigits_injective {m n : Nat} (h : Nat.toDigits 10 m = Nat.toDigits 10 n) : m = n := by
  have hread := congrArg readNat? h
  rw [readNat?_toDigits, readNat?_toDigits] at hread
  exact Option.some.inj hread

/-! ## Padding -/

theorem padded_eq (width n : Nat) :
    padded width n =
      List.replicate (width - (Nat.toDigits 10 n).length) '0' ++ Nat.toDigits 10 n :=
  rfl

theorem padded_isNumeral (width n : Nat) : IsNumeral (padded width n) := by
  have hdigits := toDigits_isNumeral n
  rw [padded_eq]
  refine ⟨List.append_ne_nil_of_right_ne_nil _ hdigits.ne_nil, fun c hc => ?_⟩
  rcases List.mem_append.1 hc with hzero | hdigit
  · rw [List.eq_of_mem_replicate hzero]
    decide
  · exact hdigits.digits c hdigit

theorem readNat?_padded (width n : Nat) : readNat? (padded width n) = some n := by
  rw [(padded_isNumeral width n).readNat?_eq, padded_eq, Nat.ofDigitChars_append,
    Nat.ofDigitChars_replicate_zero, Nat.mul_zero, Nat.ofDigitChars_ten_toDigits]

theorem le_length_padded (width n : Nat) : width ≤ (padded width n).length := by
  rw [padded_eq, List.length_append, List.length_replicate]
  omega

theorem length_padded {width n : Nat} (hwidth : 0 < width) (h : n < tenTo width) :
    (padded width n).length = width := by
  have hdigits := (Nat.length_toDigits_le_iff (by decide) hwidth).2 h
  rw [padded_eq, List.length_append, List.length_replicate]
  omega

/-! ## Whole numbers -/

/-- The number that digits denote, with at most a minus in front of them. -/
def readWhole? : List Char → Option Int
  | '-' :: cs => (readNat? cs).map fun n : Nat => -(n : Int)
  | cs => (readNat? cs).map Int.ofNat

theorem readWhole?_of_isNumeral {cs : List Char} (h : IsNumeral cs) :
    readWhole? cs = (readNat? cs).map Int.ofNat := by
  unfold readWhole?
  split
  · exact absurd (h.digits '-' List.mem_cons_self) (by decide)
  · rfl

theorem toList_toString (n : Nat) : (toString n).toList = Nat.toDigits 10 n := by
  rw [Nat.toString_eq_repr, Nat.toList_repr]

theorem toList_toString_natCast (n : Nat) : (toString (n : Int)).toList = Nat.toDigits 10 n :=
  toList_toString n

theorem toList_toString_negSucc (n : Nat) :
    (toString (Int.negSucc n)).toList = '-' :: Nat.toDigits 10 (n + 1) := by
  rw [Int.toString_eq_repr, Int.repr_eq_if, if_neg (by omega), String.toList_append,
    Nat.toList_repr]
  rfl

/-- **Whole numbers are read back** from their texts. -/
theorem readWhole?_toString (n : Int) : readWhole? (toString n).toList = some n := by
  cases n with
  | ofNat n =>
    rw [Int.ofNat_eq_natCast, toList_toString_natCast,
      readWhole?_of_isNumeral (toDigits_isNumeral n), readNat?_toDigits]
    rfl
  | negSucc n =>
    rw [toList_toString_negSucc, readWhole?, readNat?_toDigits]
    rfl

theorem toString_injective {m n : Int} (h : (toString m).toList = (toString n).toList) : m = n := by
  have hread := congrArg readWhole? h
  rw [readWhole?_toString, readWhole?_toString] at hread
  exact Option.some.inj hread

/-- The characters of a whole number. -/
theorem of_readWhole? {cs : List Char} {n : Int} (h : readWhole? cs = some n) :
    ∃ sign digits, cs = sign ++ digits ∧ (sign = [] ∨ sign = ['-']) ∧ IsNumeral digits := by
  unfold readWhole? at h
  split at h
  · next digits =>
    obtain ⟨m, hm, -⟩ := Option.map_eq_some_iff.1 h
    exact ⟨['-'], digits, rfl, .inr rfl, isNumeral_of_readNat? hm⟩
  · obtain ⟨m, hm, -⟩ := Option.map_eq_some_iff.1 h
    exact ⟨[], cs, rfl, .inl rfl, isNumeral_of_readNat? hm⟩

theorem isDigit_or_minus {n : Int} {c : Char} (h : c ∈ (toString n).toList) :
    c.isDigit = true ∨ c = '-' := by
  obtain ⟨sign, digits, htext, hsign, hdigits⟩ := of_readWhole? (readWhole?_toString n)
  rw [htext] at h
  rcases List.mem_append.1 h with hmem | hmem
  · rcases hsign with rfl | rfl
    · cases hmem
    · exact .inr (List.mem_singleton.1 hmem)
  · exact .inl (hdigits.digits c hmem)

/-! ## Fixed places -/

theorem toList_signText (negative : Bool) :
    (signText negative).toList = [] ∨ (signText negative).toList = ['-'] := by
  cases negative with
  | true => exact .inr (by decide)
  | false => exact .inl (by decide)

/-- **Fixed places.** A finite number is laid out as digits, a point and as many digits as
asked for. -/
theorem Binary.fixed_shape {f : Format} {x : Binary f} {negative : Bool} {significand : Nat}
    {exponent : Int} (h : x.datum = .finite negative significand exponent) (places : Nat) :
    ∃ sign whole fraction, (x.fixed places).toList = sign ++ whole ++ '.' :: fraction ∧
      (sign = [] ∨ sign = ['-']) ∧ IsNumeral whole ∧ fraction.length = places ∧
      ∀ c ∈ fraction, c.isDigit = true := by
  unfold fixed
  rw [h]
  dsimp only
  generalize roundHalfEven _ _ = n
  have hlength := le_length_padded (places + 1) n
  have hdigits := (padded_isNumeral (places + 1) n).digits
  generalize padded (places + 1) n = digits at hlength hdigits
  refine ⟨(signText negative).toList, digits.take (digits.length - places),
    digits.drop (digits.length - places), ?_, toList_signText negative, ⟨?_, ?_⟩, ?_, ?_⟩
  · rw [String.toList_append, String.toList_ofList, List.append_assoc]
  · -- One digit more than there are places was asked for.
    rw [Ne, List.take_eq_nil_iff, ← List.length_eq_zero_iff]
    omega
  · exact fun c hc => hdigits c (List.mem_of_mem_take hc)
  · rw [List.length_drop]
    omega
  · exact fun c hc => hdigits c (List.mem_of_mem_drop hc)

end RowParity.Number
