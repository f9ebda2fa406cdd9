/-
How far a rounded number can be from the number that is rounded.

A positive number is between `2^k` and `2^(k+1)`, with the `k` that `floorLog2` finds, and so is
what it is rounded to, the upper end included.  That is all that is needed to see that a
result is finite, or that it is not zero: `k` is small enough for the one, and large enough for
the other.
-/
import Mathlib.Algebra.Order.Field.Power
import Mathlib.Data.Rat.Cast.Order
import Mathlib.Tactic.Linarith
import Mathlib.Tactic.Positivity
import Mathlib.Tactic.FieldSimp
import Mathlib.Tactic.Ring
import RetrievalTelemetry.Binary64.Basic

namespace RetrievalTelemetry

/-! ### Whole numbers -/

/-- Rounding does not go beyond a whole number below. -/
theorem le_nearestEven {num den n : Nat} (hden : 0 < den) (h : n * den ≤ num) :
    n ≤ nearestEven num den := by
  have hq : n ≤ num / den := (Nat.le_div_iff_mul_le hden).mpr h
  unfold nearestEven
  dsimp only
  split
  · exact hq
  · split
    · exact hq.trans (Nat.le_succ _)
    · split
      · exact hq
      · exact hq.trans (Nat.le_succ _)

/-- Rounding does not go beyond a whole number above. -/
theorem nearestEven_le {num den n : Nat} (hden : 0 < den) (h : num ≤ n * den) :
    nearestEven num den ≤ n := by
  have hdiv := Nat.div_add_mod num den
  have hq : num / den ≤ n := Nat.div_le_of_le_mul (by rwa [Nat.mul_comm])
  unfold nearestEven
  dsimp only
  by_cases hmod : num % den = 0
  · rw [if_pos (by omega)]
    exact hq
  · -- Something is left over, so there is room for one more.
    have hlt : num / den < n := by
      rw [Nat.div_lt_iff_lt_mul hden]
      refine Nat.lt_of_le_of_ne h ?_
      rintro rfl
      exact hmod (Nat.mul_mod_left n den)
    split
    · exact hq
    · split
      · exact hlt
      · split
        · exact hq
        · exact hlt

/-! ### Powers of two -/

theorem two_zpow_toNat {k : Int} (hk : 0 ≤ k) : ((Nat.pow 2 k.toNat : Nat) : Rat) = 2 ^ k := by
  rw [Nat.pow_eq, Nat.cast_pow, Nat.cast_ofNat, ← zpow_natCast, Int.toNat_of_nonneg hk]

theorem two_zpow_neg_toNat {k : Int} (hk : k ≤ 0) :
    ((Nat.pow 2 (-k).toNat : Nat) : Rat) = (2 ^ k)⁻¹ := by
  rw [two_zpow_toNat (by omega), zpow_neg]

theorem log2_bounds {n : Nat} (hn : 0 < n) :
    (2 : Rat) ^ (Nat.log2 n : Int) ≤ n ∧ (n : Rat) < 2 ^ ((Nat.log2 n : Int) + 1) := by
  have hlow : 2 ^ n.log2 ≤ n := Nat.log2_self_le (Nat.ne_of_gt hn)
  have hhigh : n < 2 ^ (n.log2 + 1) := Nat.lt_log2_self
  refine ⟨?_, ?_⟩
  · rw [zpow_natCast]
    exact_mod_cast hlow
  · rw [← Nat.cast_succ, zpow_natCast]
    exact_mod_cast hhigh

/-- A power of two is not beyond a ratio if it is not beyond it when both are multiplied out. -/
theorem fits_iff {num den : Nat} (hden : 0 < den) (k : Int) :
    (if 0 ≤ k then den * Nat.pow 2 k.toNat ≤ num else den ≤ num * Nat.pow 2 (-k).toNat)
      ↔ (2 : Rat) ^ k ≤ num / den := by
  have hden' : (0 : Rat) < den := by exact_mod_cast hden
  rw [le_div_iff₀ hden']
  by_cases hk : 0 ≤ k
  · rw [if_pos hk, ← two_zpow_toNat hk, ← Nat.cast_mul, Nat.cast_le, Nat.mul_comm]
  · have hpos : (0 : Rat) < 2 ^ k := by positivity
    rw [if_neg hk, ← Nat.cast_le (α := Rat), Nat.cast_mul, two_zpow_neg_toNat (by omega),
      ← div_eq_mul_inv, le_div_iff₀ hpos, mul_comm]

/-- A positive ratio is between the power of two that `floorLog2` finds and the next one. -/
theorem floorLog2_bounds {num den : Nat} (hnum : 0 < num) (hden : 0 < den) :
    (2 : Rat) ^ floorLog2 num den ≤ num / den ∧
      (num / den : Rat) < 2 ^ (floorLog2 num den + 1) := by
  have hden' : (0 : Rat) < den := by exact_mod_cast hden
  obtain ⟨hnumLow, hnumHigh⟩ := log2_bounds hnum
  obtain ⟨hdenLow, hdenHigh⟩ := log2_bounds hden
  -- The difference of the two logarithms is right, or one too large.
  have hlow : (2 : Rat) ^ ((Nat.log2 num : Int) - Nat.log2 den - 1) ≤ num / den := by
    rw [le_div_iff₀ hden']
    calc (2 : Rat) ^ ((Nat.log2 num : Int) - Nat.log2 den - 1) * den
        ≤ 2 ^ ((Nat.log2 num : Int) - Nat.log2 den - 1) * 2 ^ ((Nat.log2 den : Int) + 1) := by
          gcongr
      _ = 2 ^ (Nat.log2 num : Int) := by
          rw [← zpow_add₀ (by norm_num)]
          congr 1
          omega
      _ ≤ num := hnumLow
  have hhigh : (num / den : Rat) < 2 ^ ((Nat.log2 num : Int) - Nat.log2 den + 1) := by
    rw [div_lt_iff₀ hden']
    calc (num : Rat) < 2 ^ ((Nat.log2 num : Int) + 1) := hnumHigh
      _ = 2 ^ ((Nat.log2 num : Int) - Nat.log2 den + 1) * 2 ^ (Nat.log2 den : Int) := by
          rw [← zpow_add₀ (by norm_num)]
          congr 1
          omega
      _ ≤ 2 ^ ((Nat.log2 num : Int) - Nat.log2 den + 1) * den := by gcongr
  unfold floorLog2
  simp only [fits_iff hden]
  split
  · rename_i hfits
    exact ⟨hfits, hhigh⟩
  · rename_i hfits
    rw [Int.sub_add_cancel]
    exact ⟨hlow, not_le.mp hfits⟩

/-- There is no other such power of two. -/
theorem floorLog2_eq {num den : Nat} {k : Int} (hnum : 0 < num) (hden : 0 < den)
    (hlow : (2 : Rat) ^ k ≤ num / den) (hhigh : (num / den : Rat) < 2 ^ (k + 1)) :
    floorLog2 num den = k := by
  obtain ⟨hlow', hhigh'⟩ := floorLog2_bounds hnum hden
  have hone : (1 : Rat) < 2 := by norm_num
  have hle := (zpow_lt_zpow_iff_right₀ hone).mp (hlow.trans_lt hhigh')
  have hge := (zpow_lt_zpow_iff_right₀ hone).mp (hlow'.trans_lt hhigh)
  omega

namespace Binary64

/-! ### Mantissas -/

theorem scaled_eq (m : Nat) (e : Int) : scaled m e = m * 2 ^ e := by
  unfold scaled
  by_cases he : 0 ≤ e
  · rw [if_pos he, Nat.cast_mul, two_zpow_toNat he]
  · rw [if_neg he, Rat.mkRat_eq_div, Int.cast_natCast, two_zpow_neg_toNat (by omega), div_inv_eq_mul]

theorem scaled_nonneg (m : Nat) (e : Int) : 0 ≤ scaled m e := by
  rw [scaled_eq]
  positivity

theorem abs_toRat_finite (b : Bool) (m : Nat) (e : Int) : |(finite b m e).toRat| = scaled m e := by
  cases b with
  | false => exact abs_of_nonneg (scaled_nonneg m e)
  | true => exact (abs_neg _).trans (abs_of_nonneg (scaled_nonneg m e))

/-- The mantissa of a ratio for an exponent. -/
def mantissa (num den : Nat) (e : Int) : Nat :=
  if 0 ≤ e then nearestEven num (den * Nat.pow 2 e.toNat)
  else nearestEven (num * Nat.pow 2 (-e).toNat) den

theorem le_mantissa {num den n : Nat} {e : Int} (hden : 0 < den)
    (h : (n * 2 ^ e : Rat) ≤ num / den) : n ≤ mantissa num den e := by
  have hden' : (0 : Rat) < den := by exact_mod_cast hden
  rw [le_div_iff₀ hden'] at h
  unfold mantissa
  by_cases he : 0 ≤ e
  · rw [if_pos he]
    refine le_nearestEven (Nat.mul_pos hden (Nat.two_pow_pos _)) ?_
    rw [← Nat.cast_le (α := Rat), Nat.cast_mul, Nat.cast_mul, two_zpow_toNat he]
    linarith
  · rw [if_neg he]
    refine le_nearestEven hden ?_
    have hpos : (0 : Rat) < 2 ^ e := by positivity
    rw [← Nat.cast_le (α := Rat), Nat.cast_mul, Nat.cast_mul, two_zpow_neg_toNat (by omega),
      ← div_eq_mul_inv, le_div_iff₀ hpos]
    linarith

theorem mantissa_le {num den n : Nat} {e : Int} (hden : 0 < den)
    (h : (num / den : Rat) ≤ n * 2 ^ e) : mantissa num den e ≤ n := by
  have hden' : (0 : Rat) < den := by exact_mod_cast hden
  rw [div_le_iff₀ hden'] at h
  unfold mantissa
  by_cases he : 0 ≤ e
  · rw [if_pos he]
    refine nearestEven_le (Nat.mul_pos hden (Nat.two_pow_pos _)) ?_
    rw [← Nat.cast_le (α := Rat), Nat.cast_mul, Nat.cast_mul, two_zpow_toNat he]
    linarith
  · rw [if_neg he]
    refine nearestEven_le hden ?_
    have hpos : (0 : Rat) < 2 ^ e := by positivity
    rw [← Nat.cast_le (α := Rat), Nat.cast_mul, Nat.cast_mul, two_zpow_neg_toNat (by omega),
      ← div_eq_mul_inv, div_le_iff₀ hpos]
    linarith

/-! ### Rounded ratios -/

/-- Two numbers are on the same side of every power of two that is a double. -/
def Near (q r : Rat) : Prop :=
  ∀ j, minExponent ≤ j → (q ≤ 2 ^ j → r ≤ 2 ^ j) ∧ ((2 : Rat) ^ j ≤ q → 2 ^ j ≤ r)

/-- The exponent that is used for a ratio. -/
def exponent (num den : Nat) : Int := max (floorLog2 num den - 52) minExponent

theorem ofRatio_eq {num : Nat} (hnum : num ≠ 0) (negative : Bool) (den : Nat) :
    ofRatio negative num den =
      let m := mantissa num den (exponent num den)
      let (m, e) := if m = 2 * leastFull then (leastFull, exponent num den + 1)
        else (m, exponent num den)
      if maxExponent < e then infinity negative else finite negative m e := by
  unfold ofRatio
  rw [if_neg hnum]
  rfl

/-- The mantissa for the exponent that is used is as near as it can be. -/
theorem near_mantissa {num den : Nat} (hnum : 0 < num) (hden : 0 < den) :
    Near (num / den) (mantissa num den (exponent num den) * 2 ^ exponent num den) := by
  obtain ⟨hlow, hhigh⟩ := floorLog2_bounds hnum hden
  have hone : (1 : Rat) < 2 := by norm_num
  have hpow : ∀ {j : Int}, exponent num den ≤ j →
      ((2 ^ (j - exponent num den).toNat : Nat) : Rat) * 2 ^ exponent num den = 2 ^ j := by
    intro j hj
    rw [Nat.cast_pow, Nat.cast_ofNat, ← zpow_natCast, Int.toNat_of_nonneg (by omega),
      ← zpow_add₀ (by norm_num), Int.sub_add_cancel]
  have hpos : (0 : Rat) < 2 ^ exponent num den := by positivity
  intro j hmin
  constructor
  · intro hle
    have hj : exponent num den ≤ j := by
      by_contra hlt
      -- Then the exponent is that of a full mantissa, and the ratio is beyond `2 ^ j`.
      have hk : j < floorLog2 num den := by
        unfold exponent at hlt
        omega
      have hbeyond : (2 : Rat) ^ j < 2 ^ floorLog2 num den := zpow_lt_zpow_right₀ hone hk
      linarith
    rw [← hpow hj] at hle ⊢
    have hm := mantissa_le hden hle
    have hm' : (mantissa num den (exponent num den) : Rat)
        ≤ ((2 ^ (j - exponent num den).toNat : Nat) : Rat) := by exact_mod_cast hm
    exact mul_le_mul_of_nonneg_right hm' hpos.le
  · intro hle
    -- A power below the exponent is below all full mantissas; one that is not can be compared.
    have hfrom : ∀ {i : Int}, exponent num den ≤ i → (2 : Rat) ^ i ≤ num / den →
        (2 : Rat) ^ i ≤ mantissa num den (exponent num den) * 2 ^ exponent num den := by
      intro i hi hbound
      rw [← hpow hi] at hbound ⊢
      have hm := le_mantissa hden hbound
      have hm' : ((2 ^ (i - exponent num den).toNat : Nat) : Rat)
          ≤ (mantissa num den (exponent num den) : Rat) := by exact_mod_cast hm
      exact mul_le_mul_of_nonneg_right hm' hpos.le
    by_cases hj : exponent num den ≤ j
    · exact hfrom hj hle
    · have hk : exponent num den ≤ floorLog2 num den ∧ j ≤ floorLog2 num den := by
        unfold exponent at hj ⊢
        omega
      exact (zpow_le_zpow_right₀ hone.le hk.2).trans (hfrom hk.1 hlow)

/-- A rounded ratio is infinite, or it is near. -/
theorem ofRatio_cases (negative : Bool) (num : Nat) {den : Nat} (hden : 0 < den) :
    ofRatio negative num den = infinity negative ∨
      ∃ m e, ofRatio negative num den = finite negative m e ∧ Near (num / den) (scaled m e) := by
  rcases Nat.eq_zero_or_pos num with rfl | hnum
  · refine Or.inr ⟨0, minExponent, rfl, fun j _ => ?_⟩
    have hpos : (0 : Rat) < 2 ^ j := by positivity
    simp [scaled_eq, hpos.le, hpos.not_ge]
  · have hnear := near_mantissa hnum hden
    rw [ofRatio_eq hnum.ne']
    dsimp only
    by_cases hfull : mantissa num den (exponent num den) = 2 * leastFull
    · rw [if_pos hfull]
      dsimp only
      split
      · exact Or.inl rfl
      · refine Or.inr ⟨_, _, rfl, ?_⟩
        rw [hfull] at hnear
        have hcarry : scaled leastFull (exponent num den + 1)
            = ((2 * leastFull : Nat) : Rat) * 2 ^ exponent num den := by
          rw [scaled_eq, zpow_add₀ (by norm_num), Nat.cast_mul]
          push_cast
          ring
        rw [hcarry]
        exact hnear
    · rw [if_neg hfull]
      dsimp only
      split
      · exact Or.inl rfl
      · refine Or.inr ⟨_, _, rfl, ?_⟩
        rw [scaled_eq]
        exact hnear

/-- A ratio that is not too large has a finite double. -/
theorem isFinite_ofRatio (negative : Bool) {num den : Nat} (hden : 0 < den)
    (h : (num / den : Rat) < 2 ^ (1023 : Int)) : (ofRatio negative num den).isFinite = true := by
  rcases Nat.eq_zero_or_pos num with rfl | hnum
  · rfl
  · have hone : (1 : Rat) < 2 := by norm_num
    have hk : floorLog2 num den < 1023 :=
      (zpow_lt_zpow_iff_right₀ hone).mp ((floorLog2_bounds hnum hden).1.trans_lt h)
    have he : exponent num den + 1 ≤ maxExponent := by
      unfold exponent maxExponent minExponent
      omega
    rw [ofRatio_eq hnum.ne']
    dsimp only
    split
    · rw [if_neg (by dsimp only; omega)]
      rfl
    · rw [if_neg (by dsimp only; omega)]
      rfl

/-- The ratio that a rational number is rounded as. -/
theorem natAbs_num_div_den (q : Rat) : (q.num.natAbs : Rat) / q.den = |q| := by
  rw [Nat.cast_natAbs, Int.cast_abs]
  conv_rhs => rw [← Rat.num_div_den q, abs_div, Nat.abs_cast]

/-- A whole number that is not too large has a finite double. -/
theorem isFinite_ofInt {n : Int} (h : n.natAbs < 2 ^ 1023) : (ofInt n).isFinite = true := by
  refine isFinite_ofRatio _ Nat.one_pos ?_
  rw [Nat.cast_one, div_one]
  exact_mod_cast h

/-- A whole number other than zero is at least one away from it, and so is its double. -/
theorem one_le_scaled_of_ofInt {n : Int} (hn : n ≠ 0) {b : Bool} {m : Nat} {e : Int}
    (h : ofInt n = finite b m e) : 1 ≤ scaled m e := by
  have hone : ((2 : Rat) ^ (0 : Int)) ≤ (n.natAbs : Rat) / ((1 : Nat) : Rat) := by
    rw [zpow_zero, Nat.cast_one, div_one]
    exact_mod_cast Int.natAbs_pos.mpr hn
  unfold ofInt at h
  rcases ofRatio_cases (n < 0) n.natAbs Nat.one_pos with hinf | ⟨m', e', hfinite, hnear⟩
  · rw [hinf] at h
    cases h
  · rw [h] at hfinite
    obtain ⟨-, rfl, rfl⟩ := finite.inj hfinite
    have hbeyond := (hnear 0 (by decide)).2 hone
    rwa [zpow_zero] at hbeyond

end Binary64

end RetrievalTelemetry
