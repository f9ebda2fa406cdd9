/-
Decimals are rounded once.

The double of a decimal is the double nearest to its value.  The number of digits decides where the
exponent is far out, and that is no exception: a value with so many digits is beyond all doubles, and
one with so many zeros behind the point is nearer to zero than to the least double.
-/
import RetrievalTelemetry.Binary64.Decimal
import RetrievalTelemetry.Proofs.Binary64.Accuracy

namespace RetrievalTelemetry

/-! ### The value of a decimal -/

namespace Decimal

/-- The number that a decimal denotes. -/
def toRat (d : Decimal) : Rat := d.digits * 10 ^ d.exponent

theorem ratio_den_pos (d : Decimal) : 0 < d.ratio.2 := by
  unfold ratio
  split
  · exact Nat.one_pos
  · exact Nat.pow_pos (by decide)

theorem ratio_eq (d : Decimal) : (d.ratio.1 / d.ratio.2 : Rat) = d.toRat := by
  unfold ratio toRat
  split
  · rename_i hexponent
    rw [Nat.cast_one, div_one, Nat.cast_mul, Nat.pow_eq, Nat.cast_pow, Nat.cast_ofNat,
      ← zpow_natCast, Int.toNat_of_nonneg hexponent]
  · rename_i hexponent
    rw [Nat.pow_eq, Nat.cast_pow, Nat.cast_ofNat, ← zpow_natCast, Int.toNat_of_nonneg (by omega),
      zpow_neg, div_inv_eq_mul]

/-- The number of digits says between which powers of ten a decimal is. -/
theorem toRat_bounds {d : Decimal} (h : d.digits ≠ 0) :
    (10 : Rat) ^ ((d.length : Int) + d.exponent - 1) ≤ d.toRat ∧
      d.toRat < 10 ^ ((d.length : Int) + d.exponent) := by
  have hten : (1 : Nat) < 10 := by decide
  have hlength : d.length = (Nat.toDigits 10 d.digits).length := by
    rw [length, Nat.toString_eq_ofList_toDigits, ← String.length_toList, String.toList_ofList]
  have hpos : 0 < d.length := by
    rw [hlength]
    exact List.length_pos_of_ne_nil Nat.toDigits_ne_nil
  have hhigh : d.digits < 10 ^ d.length :=
    (Nat.length_toDigits_le_iff hten hpos).mp hlength.ge
  have hlow : 10 ^ (d.length - 1) ≤ d.digits := by
    rcases Nat.eq_or_lt_of_le hpos with hone | hmore
    · rw [← hone]
      exact Nat.one_le_iff_ne_zero.mpr h
    · by_contra hlt
      have hle := (Nat.length_toDigits_le_iff hten (by omega)).mpr (not_le.mp hlt)
      omega
  have hunit : (0 : Rat) < 10 ^ d.exponent := by positivity
  unfold toRat
  constructor
  · calc (10 : Rat) ^ ((d.length : Int) + d.exponent - 1)
        = 10 ^ (((d.length - 1 : Nat) : Int) + d.exponent) := by congr 1; omega
      _ = ((10 ^ (d.length - 1) : Nat) : Rat) * 10 ^ d.exponent := by
          rw [zpow_add₀ (by norm_num), zpow_natCast, Nat.cast_pow, Nat.cast_ofNat]
      _ ≤ d.digits * 10 ^ d.exponent := by gcongr
  · calc (d.digits : Rat) * 10 ^ d.exponent
        < ((10 ^ d.length : Nat) : Rat) * 10 ^ d.exponent := by gcongr
      _ = 10 ^ ((d.length : Int) + d.exponent) := by
          rw [zpow_add₀ (by norm_num), zpow_natCast, Nat.cast_pow, Nat.cast_ofNat]

end Decimal

namespace Binary64

/-! ### Ratios far out -/

theorem two_zpow_le_ten_zpow {k : Int} (hk : 0 ≤ k) : (2 : Rat) ^ (3 * k) ≤ 10 ^ k := by
  rw [zpow_mul]
  exact zpow_le_zpow_left₀ hk (by norm_num) (by norm_num)

/-- The double of a ratio depends on the ratio only. -/
theorem ofRatio_congr (negative : Bool) {num den num' den' : Nat} (hden : 0 < den)
    (hden' : 0 < den') (h : (num / den : Rat) = num' / den') :
    ofRatio negative num den = ofRatio negative num' den' := by
  have hpos : (0 : Rat) < den := by exact_mod_cast hden
  have hpos' : (0 : Rat) < den' := by exact_mod_cast hden'
  have hcross : num * den' = num' * den := by
    rw [div_eq_div_iff hpos.ne' hpos'.ne'] at h
    exact_mod_cast h
  rcases Nat.eq_zero_or_pos num with rfl | hnum
  · obtain rfl : num' = 0 := by
      rw [Nat.zero_mul] at hcross
      exact (Nat.mul_eq_zero.mp hcross.symm).resolve_right hden.ne'
    rfl
  · have hnum' : 0 < num' := by
      by_contra hzero
      have hleft := Nat.mul_pos hnum hden'
      rw [hcross, Nat.eq_zero_of_not_pos hzero, Nat.zero_mul] at hleft
      exact Nat.lt_irrefl 0 hleft
    have hlog : floorLog2 num den = floorLog2 num' den' := by
      obtain ⟨hlow, hhigh⟩ := floorLog2_bounds hnum' hden'
      exact floorLog2_eq hnum hden (h ▸ hlow) (h ▸ hhigh)
    have hmantissa : ∀ e, mantissa num den e = mantissa num' den' e := by
      intro e
      unfold mantissa
      split
      · refine nearestEven_congr (Nat.mul_pos hden (Nat.two_pow_pos _))
          (Nat.mul_pos hden' (Nat.two_pow_pos _)) ?_
        rw [Nat.cast_mul, Nat.cast_mul, ← div_div, ← div_div, h]
      · refine nearestEven_congr hden hden' ?_
        rw [Nat.cast_mul, Nat.cast_mul, mul_div_right_comm, mul_div_right_comm, h]
    have hexponent : exponent num den = exponent num' den' := by rw [exponent, hlog, exponent]
    rw [ofRatio_eq hnum.ne', ofRatio_eq hnum'.ne', hexponent, hmantissa]

theorem ofRatio_of_large (negative : Bool) {num den : Nat} (hden : 0 < den)
    (h : (2 : Rat) ^ (1024 : Int) ≤ num / den) : ofRatio negative num den = infinity negative := by
  have hnum : 0 < num := by
    by_contra hzero
    rw [Nat.eq_zero_of_not_pos hzero, Nat.cast_zero, zero_div] at h
    exact absurd h (not_le.mpr (by positivity))
  have hlog : (1024 : Int) < floorLog2 num den + 1 :=
    (zpow_lt_zpow_iff_right₀ (by norm_num)).mp (h.trans_lt (floorLog2_bounds hnum hden).2)
  have hexponent : maxExponent < exponent num den := by
    unfold exponent maxExponent
    omega
  rw [ofRatio_eq hnum.ne']
  dsimp only
  by_cases hfull : mantissa num den (exponent num den) = 2 * leastFull
  · rw [if_pos hfull]
    exact if_pos (by dsimp only; omega)
  · rw [if_neg hfull]
    exact if_pos hexponent

theorem ofRatio_of_small (negative : Bool) {num den : Nat} (hden : 0 < den)
    (h : (num / den : Rat) < 2 ^ (-1075 : Int)) : ofRatio negative num den = zero negative := by
  rcases Nat.eq_zero_or_pos num with rfl | hnum
  · rfl
  · have hlog : floorLog2 num den < -1075 :=
      (zpow_lt_zpow_iff_right₀ (by norm_num)).mp ((floorLog2_bounds hnum hden).1.trans_lt h)
    have hexponent : exponent num den = minExponent := by
      unfold exponent minExponent
      omega
    have hmantissa : mantissa num den minExponent = 0 := by
      unfold mantissa
      rw [if_neg (by decide)]
      refine nearestEven_eq_of_abs_lt hden ?_
      rw [Nat.cast_mul, two_zpow_neg_toNat (k := minExponent) (by decide), mul_div_right_comm,
        Nat.cast_zero, sub_zero, abs_of_nonneg (by positivity)]
      calc (num / den : Rat) * (2 ^ minExponent)⁻¹
          < 2 ^ (-1075 : Int) * (2 ^ minExponent)⁻¹ := by gcongr
        _ = 2 ^ (-1 : Int) := by
            rw [← zpow_neg, ← zpow_add₀ (by norm_num)]
            rfl
        _ = 1 / 2 := by norm_num
    rw [ofRatio_eq hnum.ne', hexponent, hmantissa]
    rfl

/-! ### The double of a decimal -/

/-- A decimal is rounded as the ratio that it is, also where the number of digits decides. -/
theorem ofDecimal_eq (negative : Bool) (d : Decimal) :
    ofDecimal negative d = ofRatio negative d.ratio.1 d.ratio.2 := by
  have htwo : (1 : Rat) ≤ 2 := by norm_num
  have hten : (1 : Rat) ≤ 10 := by norm_num
  have hvalue := d.ratio_eq
  have hden := d.ratio_den_pos
  unfold ofDecimal
  split
  · rename_i hdigits
    have hnum : d.ratio.1 = 0 := by
      unfold Decimal.ratio
      split
      · rw [hdigits, Nat.zero_mul]
      · exact hdigits
    rw [hnum]
    rfl
  · rename_i hdigits
    obtain ⟨hlow, hhigh⟩ := Decimal.toRat_bounds hdigits
    dsimp only
    split
    · rename_i hlarge
      refine (ofRatio_of_large negative hden ?_).symm
      rw [hvalue]
      calc (2 : Rat) ^ (1024 : Int) ≤ 2 ^ (3 * 400 : Int) := zpow_le_zpow_right₀ htwo (by omega)
        _ ≤ 10 ^ (400 : Int) := two_zpow_le_ten_zpow (by decide)
        _ ≤ 10 ^ ((d.length : Int) + d.exponent - 1) := zpow_le_zpow_right₀ hten (by omega)
        _ ≤ d.toRat := hlow
    · split
      · rename_i hsmall
        refine (ofRatio_of_small negative hden ?_).symm
        rw [hvalue]
        calc d.toRat < 10 ^ ((d.length : Int) + d.exponent) := hhigh
          _ ≤ 10 ^ (-401 : Int) := zpow_le_zpow_right₀ hten (by omega)
          _ ≤ 2 ^ (-(3 * 401) : Int) := by
              rw [zpow_neg, zpow_neg]
              exact inv_anti₀ (by positivity) (two_zpow_le_ten_zpow (by decide))
          _ ≤ 2 ^ (-1075 : Int) := zpow_le_zpow_right₀ htwo (by omega)
      · rfl

/-- The double of a decimal is the one nearest to its value. -/
theorem ofDecimal_eq_ofRat (d : Decimal) : ofDecimal false d = ofRat d.toRat := by
  have hnonneg : 0 ≤ d.toRat := by
    unfold Decimal.toRat
    positivity
  rw [ofDecimal_eq, ofRat, decide_eq_false (not_lt.mpr hnonneg)]
  refine ofRatio_congr false d.ratio_den_pos (Rat.den_pos _) ?_
  rw [d.ratio_eq, natAbs_num_div_den, abs_of_nonneg hnonneg]

end Binary64

end RetrievalTelemetry
