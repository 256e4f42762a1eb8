import RowParity.Number.Layout

/-!
# Numbers of moderate size are finite

A ratio that is not far above one is stored with a small exponent (`nearestRatio_lt`), so the
pattern it is rounded to stands for a finite number, and that number is not far from zero either
(`value_le`).
-/

namespace RowParity.Number

/-! ## Ratios -/

theorem twoTo_add (m n : Nat) : twoTo (m + n) = twoTo m * twoTo n :=
  Nat.pow_add 2 m n

theorem twoTo_le {m n : Nat} (h : m ≤ n) : twoTo m ≤ twoTo n :=
  Nat.pow_le_pow_right (by decide) h

theorem twoTo_log2_le {n : Nat} (h : n ≠ 0) : twoTo n.log2 ≤ n :=
  Nat.log2_self_le h

theorem lt_twoTo_log2 (n : Nat) : n < twoTo (n.log2 + 1) :=
  Nat.lt_log2_self

theorem log2_le {n k : Nat} (h : n < twoTo (k + 1)) : n.log2 ≤ k := by
  by_cases hn : n = 0
  · simp [hn]
  · exact Nat.le_of_lt_succ ((Nat.log2_lt hn).2 h)

theorem roundHalfEven_le (n d : Nat) : roundHalfEven n d ≤ n / d + 1 := by
  unfold roundHalfEven
  dsimp only
  split
  · omega
  · split <;> omega

namespace Format

variable {n d k : Nat}

/-- The exponent of the last place for a ratio up to `2 ^ k`: it is small, and the ratio has no
more than 54 bits above it. -/
theorem lastPlace_bounds (hk : k ≤ 52) (h : n ≤ d * twoTo k) :
    Format.double.lastPlace n d ≤ (k : Int) - 52 ∧
      (n.log2 : Int) - d.log2 - 53 ≤ Format.double.lastPlace n d := by
  have hsize : n.log2 ≤ d.log2 + k := by
    refine log2_le (Nat.lt_of_le_of_lt h ?_)
    calc d * twoTo k < twoTo (d.log2 + 1) * twoTo k :=
          Nat.mul_lt_mul_of_pos_right (lt_twoTo_log2 d) (Nat.two_pow_pos k)
      _ = twoTo (d.log2 + k + 1) := by rw [← twoTo_add, Nat.add_right_comm]
  have hlowest : Format.double.lowest = -1074 := by decide
  have hfraction : (Format.double.fraction : Int) = 52 := rfl
  unfold lastPlace
  dsimp only
  rw [hlowest, hfraction]
  split <;> omega

/-- The pattern of a ratio up to `2 ^ k` has a small exponent. -/
theorem nearestRatio_lt (hd : d ≠ 0) (hk : k ≤ 52) (h : n ≤ d * twoTo k) :
    Format.double.nearestRatio n d < (k + 1028) * twoTo 52 := by
  by_cases hn : n = 0
  · rw [nearestRatio, if_pos hn]
    exact Nat.mul_pos (by omega) (Nat.two_pow_pos 52)
  obtain ⟨hhigh, hlow⟩ := lastPlace_bounds hk h
  have hlowest : Format.double.lowest = -1074 := by decide
  have hfraction : Format.double.fraction = 52 := rfl
  rw [nearestRatio, if_neg hn]
  dsimp only
  rw [hlowest, hfraction]
  generalize Format.double.lastPlace n d = place at hhigh hlow
  have hscaled : scaledByPower n d (-place) = (n * twoTo (-place).toNat, d) := by
    rw [scaledByPower, if_pos (by omega)]
  have hquotient : n * twoTo (-place).toNat / d < twoTo 54 := by
    refine Nat.div_lt_of_lt_mul ?_
    calc n * twoTo (-place).toNat < twoTo (n.log2 + 1) * twoTo (-place).toNat :=
          Nat.mul_lt_mul_of_pos_right (lt_twoTo_log2 n) (Nat.two_pow_pos _)
      _ = twoTo (n.log2 + 1 + (-place).toNat) := (twoTo_add _ _).symm
      _ ≤ twoTo (d.log2 + 54) := twoTo_le (by omega)
      _ = twoTo d.log2 * twoTo 54 := twoTo_add _ _
      _ ≤ d * twoTo 54 := Nat.mul_le_mul_right _ (twoTo_log2_le hd)
  have hround := roundHalfEven_le (n * twoTo (-place).toNat) d
  have hsteps : (place - -1074).toNat ≤ k + 1022 := by omega
  have hplaces : (place - -1074).toNat * twoTo 52 ≤ (k + 1022) * twoTo 52 :=
    Nat.mul_le_mul_right _ hsteps
  have hbits : twoTo 54 = 4 * twoTo 52 := by decide
  have hone : 1 ≤ twoTo 52 := Nat.two_pow_pos 52
  rw [hscaled]
  dsimp only
  rw [hbits] at hquotient
  generalize twoTo 52 = unit at hquotient hplaces hone ⊢
  rw [Nat.add_mul] at hplaces ⊢
  omega

end Format

/-! ## Patterns -/

namespace Binary

/-- A pattern with a small exponent stands for a finite number. -/
theorem datum_finite {x : Double} {m : Nat} (hm : 2 ≤ m) (hmost : m ≤ 2047)
    (h : x.bits % 9223372036854775808 < m * 4503599627370496) :
    ∃ significand exponent, x.datum = .finite x.isNegative significand exponent ∧
      significand < 9007199254740992 ∧ exponent ≤ (m : Int) - 1076 := by
  have hlowest : Format.double.lowest = -1074 := by decide
  have hfraction : twoTo Format.double.fraction = 4503599627370496 := rfl
  have hexponent : twoTo Format.double.exponent = 2048 := rfl
  have hstored : x.bits % 4503599627370496 < 4503599627370496 := Nat.mod_lt _ (by decide)
  have hbiased : x.bits / 4503599627370496 % 2048 < m := by omega
  unfold datum
  rw [hlowest, hfraction, hexponent]
  dsimp only
  rw [if_neg (by omega)]
  by_cases hsubnormal : x.bits / 4503599627370496 % 2048 = 0
  · rw [if_pos hsubnormal]
    exact ⟨_, _, rfl, by omega, by omega⟩
  · rw [if_neg hsubnormal]
    exact ⟨_, _, rfl, by omega, by omega⟩

/-- A ratio up to `2 ^ k` is rounded to a finite number. -/
theorem datum_ofRatio {n d k : Nat} (hd : d ≠ 0) (hk : k ≤ 52) (h : n ≤ d * twoTo k)
    (negative : Bool) :
    ∃ sign significand exponent,
      (ofRatio negative n d : Double).datum = .finite sign significand exponent ∧
        significand < 9007199254740992 ∧ exponent ≤ (k : Int) - 48 := by
  have hpattern : Format.double.nearestRatio n d < (k + 1028) * 4503599627370496 :=
    Format.nearestRatio_lt hd hk h
  have hsign : twoTo (Format.double.fraction + Format.double.exponent) = 9223372036854775808 := rfl
  have hbits : (ofRatio negative n d : Double).bits % 9223372036854775808 <
      (k + 1028) * 4503599627370496 := by
    rw [ofRatio, withSign, hsign]
    dsimp only
    cases negative with
    | true =>
      rw [if_pos rfl]
      omega
    | false =>
      rw [if_neg (by decide)]
      omega
  obtain ⟨significand, exponent, hdatum, hsignificand, hexponent⟩ :=
    datum_finite (by omega) (by omega) hbits
  exact ⟨_, significand, exponent, hdatum, hsignificand, by omega⟩

end Binary

/-! ## Values -/

theorem zpow_two_le {m n : Int} (h : m ≤ n) : (2 : Rat) ^ m ≤ 2 ^ n := by
  obtain ⟨k, rfl⟩ : ∃ k : Nat, n = m + k := ⟨(n - m).toNat, by omega⟩
  have hpower : (2 : Rat) ^ k = (twoTo k : Nat) := (Rat.natCast_pow 2 k).symm
  have hone : (1 : Rat) ≤ 2 ^ k := by
    rw [hpower]
    exact Rat.natCast_le_natCast.2 (Nat.two_pow_pos k)
  have hmul := Rat.mul_le_mul_of_nonneg_left hone (Rat.zpow_nonneg (by decide) : 0 ≤ (2 : Rat) ^ m)
  rw [Rat.zpow_add (by decide), Rat.zpow_natCast]
  rwa [Rat.mul_one] at hmul

theorem natAbs_num_le {q : Rat} {b : Nat} (hlow : -(b : Rat) ≤ q) (hhigh : q ≤ b) :
    q.num.natAbs ≤ q.den * b := by
  have hlower := (Rat.le_iff _ _).1 hlow
  have hupper := (Rat.le_iff _ _).1 hhigh
  simp only [Rat.neg_num, Rat.neg_den, Rat.num_natCast, Rat.den_natCast, Int.neg_mul]
    at hlower hupper
  rw [Nat.mul_comm]
  omega

namespace Binary

/-- A number whose last place is far below one is not far from zero. -/
theorem value_le {x : Double} {negative : Bool} {significand : Nat} {exponent : Int}
    (h : x.datum = .finite negative significand exponent)
    (hsignificand : significand < 9007199254740992) (hexponent : exponent ≤ -30) :
    ∃ v, x.value? = some v ∧ -8388608 ≤ v ∧ v ≤ 8388608 := by
  let size : Rat := significand * 2 ^ exponent
  have hvalue : x.value? = some (if negative then -size else size) := by
    rw [value?, h]
  have hpositive : 0 ≤ (2 : Rat) ^ exponent := Rat.zpow_nonneg (by decide)
  have hsize : 0 ≤ size := Rat.mul_nonneg Rat.natCast_nonneg hpositive
  have hmost : size ≤ 8388608 :=
    calc size ≤ (9007199254740992 : Nat) * 2 ^ exponent :=
          Rat.mul_le_mul_of_nonneg_right (Rat.natCast_le_natCast.2 (Nat.le_of_lt hsignificand))
            hpositive
      _ ≤ (9007199254740992 : Nat) * 2 ^ (-30 : Int) :=
          Rat.mul_le_mul_of_nonneg_left (zpow_two_le hexponent) Rat.natCast_nonneg
      _ = 8388608 := by decide +kernel
  refine ⟨_, hvalue, ?_⟩
  cases negative with
  | true =>
    rw [if_pos rfl]
    grind
  | false =>
    rw [if_neg (by decide)]
    grind

end Binary

end RowParity.Number
