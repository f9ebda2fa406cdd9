/-
How near a rounded number is to the number that is rounded.

Rounding to a whole number is off by at most a half, so rounding to a double is off by at most half a
unit of its last place.  A number that is a double already is not changed; all natural numbers up to
two to the power of 53 are, and as long as sums and products stay below that they are exact.
-/
import Mathlib.Algebra.Order.AbsoluteValue.Basic
import RetrievalTelemetry.Proofs.Binary64.Bound

namespace RetrievalTelemetry

/-! ### Whole numbers -/

/-- Rounding is off by at most a half, all multiplied by twice the denominator. -/
theorem nearestEven_bounds (num : Nat) {den : Nat} (hden : 0 < den) :
    2 * num ≤ 2 * (nearestEven num den * den) + den ∧
      2 * (nearestEven num den * den) ≤ 2 * num + den := by
  have hdiv := Nat.div_add_mod num den
  have hlt := Nat.mod_lt num hden
  have hnext : (num / den + 1) * den = den * (num / den) + den := by
    rw [Nat.succ_mul, Nat.mul_comm]
  have hsame : num / den * den = den * (num / den) := Nat.mul_comm _ _
  unfold nearestEven
  dsimp only
  split
  · omega
  · split
    · omega
    · split <;> omega

/-- Rounding is off by at most a half. -/
theorem abs_nearestEven_sub_le (num : Nat) {den : Nat} (hden : 0 < den) :
    |(nearestEven num den : Rat) - num / den| ≤ 1 / 2 := by
  have hbounds := nearestEven_bounds num hden
  have hden' : (0 : Rat) < den := by exact_mod_cast hden
  have hlow : (2 * num : Rat) ≤ 2 * (nearestEven num den * den) + den := by
    exact_mod_cast hbounds.1
  have hhigh : (2 * (nearestEven num den * den) : Rat) ≤ 2 * num + den := by
    exact_mod_cast hbounds.2
  have hquotient : (num / den : Rat) * den = num := div_mul_cancel₀ _ hden'.ne'
  rw [abs_le]
  constructor
  · refine le_of_mul_le_mul_right ?_ hden'
    linarith
  · refine le_of_mul_le_mul_right ?_ hden'
    linarith

/-- The nearest whole number is the only one that is less than a half away. -/
theorem nearestEven_eq_of_abs_lt {num den k : Nat} (hden : 0 < den)
    (h : |(num / den : Rat) - k| < 1 / 2) : nearestEven num den = k := by
  have hnear := abs_nearestEven_sub_le num hden
  have hone : |(nearestEven num den : Rat) - k| < 1 := by
    calc |(nearestEven num den : Rat) - k|
        ≤ |(nearestEven num den : Rat) - num / den| + |(num / den : Rat) - k| := abs_sub_le _ _ _
      _ < 1 / 2 + 1 / 2 := add_lt_add_of_le_of_lt hnear h
      _ = 1 := by norm_num
  have hint : |(nearestEven num den : Int) - k| < 1 := by exact_mod_cast hone
  have hzero := Int.abs_lt_one_iff.mp hint
  omega

theorem nearestEven_mul_left {c : Nat} (hc : 0 < c) (num den : Nat) :
    nearestEven (c * num) (c * den) = nearestEven num den := by
  unfold nearestEven
  rw [Nat.mul_div_mul_left _ _ hc, Nat.mul_mod_mul_left]
  dsimp only
  have h1 : 2 * (c * (num % den)) < c * den ↔ 2 * (num % den) < den := by
    rw [Nat.mul_left_comm]
    exact Nat.mul_lt_mul_left hc
  have h2 : c * den < 2 * (c * (num % den)) ↔ den < 2 * (num % den) := by
    rw [Nat.mul_left_comm]
    exact Nat.mul_lt_mul_left hc
  simp only [h1, h2]

/-- Rounding depends on the ratio only. -/
theorem nearestEven_congr {num den num' den' : Nat} (hden : 0 < den) (hden' : 0 < den')
    (h : (num / den : Rat) = num' / den') : nearestEven num den = nearestEven num' den' := by
  have hcross : num * den' = num' * den := by
    rw [div_eq_div_iff (by positivity) (by positivity)] at h
    exact_mod_cast h
  rw [← nearestEven_mul_left hden' num den, ← nearestEven_mul_left hden num' den',
    Nat.mul_comm den' num, hcross, Nat.mul_comm num' den, Nat.mul_comm den' den]


theorem nearestEvenInt_of_nonneg {q : Rat} (hq : 0 ≤ q) :
    nearestEvenInt q = nearestEven q.num.natAbs q.den := by
  unfold nearestEvenInt
  rw [if_neg (not_lt.mpr hq)]

theorem nearestEvenInt_neg (q : Rat) : nearestEvenInt (-q) = -nearestEvenInt q := by
  unfold nearestEvenInt
  rw [Rat.neg_num, Rat.neg_den, Int.natAbs_neg]
  rcases lt_trichotomy q 0 with h | rfl | h
  · rw [if_neg (by linarith), if_pos h, neg_neg]
  · rfl
  · rw [if_pos (by linarith), if_neg (by linarith)]

theorem nearestEvenInt_div (num : Nat) {den : Nat} (hden : 0 < den) :
    nearestEvenInt (num / den : Rat) = nearestEven num den := by
  have hnonneg : (0 : Rat) ≤ num / den := by positivity
  rw [nearestEvenInt_of_nonneg hnonneg]
  refine congrArg Nat.cast (nearestEven_congr (Rat.den_pos _) hden ?_)
  rw [Binary64.natAbs_num_div_den, abs_of_nonneg hnonneg]

theorem nearestEvenInt_eq_of_abs_lt {q : Rat} {k : Nat} (hq : 0 ≤ q) (h : |q - k| < 1 / 2) :
    nearestEvenInt q = k := by
  rw [nearestEvenInt_of_nonneg hq]
  refine congrArg Nat.cast (nearestEven_eq_of_abs_lt q.den_pos ?_)
  rwa [Binary64.natAbs_num_div_den, abs_of_nonneg hq]

namespace Binary64

/-! ### Ratios -/

/-- A mantissa is off by at most half a unit. -/
theorem abs_mantissa_sub_le (num : Nat) {den : Nat} (hden : 0 < den) (e : Int) :
    |(mantissa num den e : Rat) * 2 ^ e - num / den| ≤ 2 ^ e / 2 := by
  have hpos : (0 : Rat) < 2 ^ e := by positivity
  have hfactor : ∀ {m : Nat} {q : Rat}, |(m : Rat) - q / 2 ^ e| ≤ 1 / 2 →
      |(m : Rat) * 2 ^ e - q| ≤ 2 ^ e / 2 := by
    intro m q h
    have hq : (m : Rat) * 2 ^ e - q = (m - q / 2 ^ e) * 2 ^ e := by
      rw [sub_mul, div_mul_cancel₀ _ hpos.ne']
    rw [hq, abs_mul, abs_of_pos hpos]
    linarith [mul_le_mul_of_nonneg_right h hpos.le]
  refine hfactor ?_
  unfold mantissa
  by_cases he : 0 ≤ e
  · rw [if_pos he]
    have h := abs_nearestEven_sub_le num (Nat.mul_pos hden (Nat.two_pow_pos e.toNat))
    rwa [Nat.cast_mul, ← Nat.pow_eq, two_zpow_toNat he, ← div_div] at h
  · rw [if_neg he]
    have h := abs_nearestEven_sub_le (num * Nat.pow 2 (-e).toNat) hden
    rwa [Nat.cast_mul, two_zpow_neg_toNat (by omega), ← div_eq_mul_inv, div_right_comm] at h

/-- A finite double has the value of the mantissa that was rounded, also where that has a bit too
many. -/
theorem scaled_ofRatio {negative : Bool} {num den : Nat} (hnum : num ≠ 0) {b : Bool} {m : Nat}
    {e : Int} (h : ofRatio negative num den = finite b m e) :
    scaled m e = mantissa num den (exponent num den) * 2 ^ exponent num den := by
  rcases (ofRatio_eq_finite hnum h).2 with ⟨rfl, rfl⟩ | ⟨hcarry, rfl, rfl⟩
  · exact scaled_eq _ _
  · rw [scaled_eq, hcarry, zpow_add₀ (by norm_num)]
    push_cast
    ring

theorem exists_finite_ofRatio (negative : Bool) {num den : Nat} (hden : 0 < den)
    (h : (num / den : Rat) < 2 ^ (1023 : Int)) :
    ∃ m e, ofRatio negative num den = finite negative m e := by
  rcases ofRatio_cases negative num hden with hinf | ⟨m, e, hround, -⟩
  · have hfinite := isFinite_ofRatio negative hden h
    rw [hinf] at hfinite
    cases hfinite
  · exact ⟨m, e, hround⟩

/-- A ratio that is a double is rounded to itself. -/
theorem ofRatio_exact (negative : Bool) {num den n : Nat} {e : Int} (hden : 0 < den)
    (hn : n < 2 * leastFull) (hmin : minExponent ≤ e) (hmax : e ≤ maxExponent)
    (h : (num / den : Rat) = n * 2 ^ e) :
    ∃ m f, ofRatio negative num den = finite negative m f ∧ scaled m f = num / den := by
  obtain ⟨m, f, hround, hle⟩ := ofRatio_le negative hden hn hmin hmax h.le
  refine ⟨m, f, hround, ?_⟩
  rcases Nat.eq_zero_or_pos num with rfl | hnum
  · cases hround
    rw [scaled_eq, Nat.cast_zero, zero_mul, zero_div]
  · refine le_antisymm (h ▸ hle) ?_
    have hexp := exponent_le hnum hden hn hmin h.le
    set x := exponent num den with hx
    have hshift : ((n * 2 ^ (e - x).toNat : Nat) : Rat) * 2 ^ x = num / den := by
      have hadd : (2 : Rat) ^ e = 2 ^ (e - x) * 2 ^ x := by
        rw [← zpow_add₀ (by norm_num), Int.sub_add_cancel]
      rw [h, hadd, Nat.cast_mul, Nat.cast_pow, Nat.cast_ofNat, ← zpow_natCast,
        Int.toNat_of_nonneg (by omega), mul_assoc]
    have hm : ((n * 2 ^ (e - x).toNat : Nat) : Rat) ≤ (mantissa num den x : Rat) := by
      exact_mod_cast le_mantissa hden hshift.le
    rw [scaled_ofRatio hnum.ne' hround, ← hx, ← hshift]
    exact mul_le_mul_of_nonneg_right hm (by positivity)

/-! ### Whole numbers that are doubles -/

/-- Up to here every whole number is a double. -/
def maxExact : Nat := 0x20000000000000

/-- The double with the value of a natural number. -/
def IsNat (x : Binary64) (n : Nat) : Prop := ∃ m e, x = finite false m e ∧ scaled m e = n

theorem ofRatio_nat (negative : Bool) (num : Nat) {den n : Nat} (hden : 0 < den)
    (hn : n ≤ maxExact) (h : (num / den : Rat) = n) :
    ∃ m e, ofRatio negative num den = finite negative m e ∧ scaled m e = n := by
  rw [← h]
  rcases Nat.lt_or_ge n maxExact with hlt | hge
  · refine ofRatio_exact negative hden hlt (e := 0) (by decide) (by decide) ?_
    rw [h, zpow_zero, mul_one]
  · -- The last one has a bit too many for a mantissa, but it is even.
    obtain rfl : n = maxExact := Nat.le_antisymm hn hge
    refine ofRatio_exact negative hden (n := leastFull) (e := 1) (by decide) (by decide)
      (by decide) ?_
    rw [h]
    norm_num [maxExact, leastFull]

theorem isNat_ofRat {q : Rat} {n : Nat} (hn : n ≤ maxExact) (h : q = n) : (ofRat q).IsNat n := by
  have hneg : decide (q < 0) = false := by
    rw [h]
    simp
  unfold ofRat
  rw [hneg]
  refine ofRatio_nat false _ q.den_pos hn ?_
  rw [natAbs_num_div_den, h, abs_of_nonneg (Nat.cast_nonneg n)]

theorem isNat_ofInt {n : Nat} (hn : n ≤ maxExact) : (ofInt n).IsNat n := by
  have hneg : decide ((n : Int) < 0) = false := by simp
  unfold ofInt
  rw [hneg]
  exact ofRatio_nat false _ Nat.one_pos hn (by rw [Int.natAbs_natCast, Nat.cast_one, div_one])

theorem toRat?_ofInt {z : Int} (hz : z.natAbs ≤ maxExact) : (ofInt z).toRat? = some (z : Rat) := by
  obtain ⟨m, e, hround, hvalue⟩ := ofRatio_nat (z < 0) z.natAbs Nat.one_pos hz
    (by rw [Nat.cast_one, div_one])
  rw [ofInt, hround]
  refine congrArg some ?_
  rcases Int.lt_or_le z 0 with hneg | hpos
  · rw [decide_eq_true hneg, toRat, hvalue, ← Int.cast_natCast, ← Int.cast_neg,
      show -(z.natAbs : Int) = z by omega]
  · rw [decide_eq_false (not_lt.mpr hpos), toRat, hvalue, ← Int.cast_natCast,
      show (z.natAbs : Int) = z by omega]

theorem toRat?_zero (negative : Bool) : (zero negative).toRat? = some 0 := by
  have hvalue : scaled 0 minExponent = 0 := scaled_eq_zero_iff.mpr rfl
  cases negative with
  | false => exact congrArg some hvalue
  | true => exact congrArg some (neg_eq_zero.mpr hvalue)

theorem isNat_zero : (zero false).IsNat 0 := by
  refine ⟨0, minExponent, rfl, ?_⟩
  rw [scaled_eq, Nat.cast_zero, zero_mul]

theorem IsNat.add {x y : Binary64} {a b : Nat} (hx : x.IsNat a) (hy : y.IsNat b)
    (h : a + b ≤ maxExact) : (x.add y).IsNat (a + b) := by
  obtain ⟨m, e, rfl, hm⟩ := hx
  obtain ⟨n, f, rfl, hn⟩ := hy
  simp only [Binary64.add]
  split
  · rename_i hzero
    obtain ⟨rfl, rfl⟩ := hzero
    rw [scaled_eq, Nat.cast_zero, zero_mul] at hm hn
    have ha : a = 0 := by exact_mod_cast hm.symm
    have hb : b = 0 := by exact_mod_cast hn.symm
    rw [ha, hb]
    exact isNat_zero
  · refine isNat_ofRat h ?_
    simp only [toRat, hm, hn]
    push_cast
    rfl

theorem IsNat.mul {x y : Binary64} {a b : Nat} (hx : x.IsNat a) (hy : y.IsNat b)
    (h : a * b ≤ maxExact) : (x.mul y).IsNat (a * b) := by
  obtain ⟨m, e, rfl, hm⟩ := hx
  obtain ⟨n, f, rfl, hn⟩ := hy
  simp only [Binary64.mul, toRat, Bool.xor_self, hm, hn]
  refine ofRatio_nat false _ (Rat.den_pos _) h ?_
  rw [natAbs_num_div_den, abs_of_nonneg (by positivity)]
  push_cast
  rfl

/-- Dividing by a natural number rounds the quotient of the values. -/
theorem div_of_isNat {negative : Bool} {m : Nat} {e : Int} {y : Binary64} {k : Nat} (hy : y.IsNat k)
    (hk : k ≠ 0) :
    (finite negative m e).div y
      = ofRatio negative ((finite negative m e).toRat / k).num.natAbs
          ((finite negative m e).toRat / k).den := by
  obtain ⟨n, f, rfl, hn⟩ := hy
  have hn0 : n ≠ 0 := by
    rintro rfl
    rw [scaled_eq, Nat.cast_zero, zero_mul] at hn
    exact hk (by exact_mod_cast hn.symm)
  have hvalue : (finite false n f).toRat = k := hn
  rw [div, if_neg hn0]
  dsimp only
  rw [hvalue, Bool.xor_false]

end Binary64

end RetrievalTelemetry
