/-
Rounding does not pass a double.

A number that is at most a double is rounded to at most that double, so what is rounded stays finite
below any finite double.  In the other direction nothing is lost but the last place: a rounded number
with a full mantissa is less than one unit of it beyond the number that was rounded.
-/
import RetrievalTelemetry.Proofs.Binary64.Canonical

namespace RetrievalTelemetry.Binary64

/-- The two ways in which a ratio is rounded to a finite double: with a mantissa of its own, or, if
that one has a bit too many, with the least full mantissa and the next exponent. -/
theorem ofRatio_eq_finite {negative : Bool} {num den : Nat} (hnum : num ≠ 0) {b : Bool} {m : Nat}
    {e : Int} (h : ofRatio negative num den = finite b m e) :
    e ≤ maxExponent ∧
      ((m = mantissa num den (exponent num den) ∧ e = exponent num den) ∨
        (mantissa num den (exponent num den) = 2 * leastFull ∧ m = leastFull ∧
          e = exponent num den + 1)) := by
  rw [ofRatio_eq hnum] at h
  dsimp only at h
  split at h
  · rename_i hcarry
    split at h
    · cases h
    · rename_i hle
      cases h
      exact ⟨not_lt.mp hle, Or.inr ⟨hcarry, rfl, rfl⟩⟩
  · split at h
    · cases h
    · rename_i hle
      cases h
      exact ⟨not_lt.mp hle, Or.inl ⟨rfl, rfl⟩⟩

/-- What a short mantissa stands for. -/
theorem mul_two_zpow_lt {n : Nat} (hn : n < 2 * leastFull) (e : Int) :
    (n * 2 ^ e : Rat) < 2 ^ (53 + e) := by
  have hn' : (n : Rat) < 2 ^ (53 : Int) := by
    have htwice : 2 * leastFull = 2 ^ 53 := by decide
    rw [htwice] at hn
    exact_mod_cast hn
  calc (n : Rat) * 2 ^ e < 2 ^ (53 : Int) * 2 ^ e :=
        mul_lt_mul_of_pos_right hn' (zpow_pos (by norm_num) e)
    _ = 2 ^ (53 + e) := (zpow_add₀ (by norm_num) _ _).symm

/-- The exponent of a ratio is not above that of a double which the ratio does not exceed. -/
theorem exponent_le {num den n : Nat} {e : Int} (hnum : 0 < num) (hden : 0 < den)
    (hn : n < 2 * leastFull) (hmin : minExponent ≤ e) (h : (num / den : Rat) ≤ n * 2 ^ e) :
    exponent num den ≤ e := by
  have hpow : (2 : Rat) ^ floorLog2 num den < 2 ^ (53 + e) := by
    calc (2 : Rat) ^ floorLog2 num den ≤ num / den := (floorLog2_bounds hnum hden).1
      _ ≤ n * 2 ^ e := h
      _ < 2 ^ (53 + e) := mul_two_zpow_lt hn e
  have hlog : floorLog2 num den < 53 + e :=
    (zpow_lt_zpow_iff_right₀ (by norm_num)).mp hpow
  unfold exponent
  omega

/-- A ratio that does not exceed a double is rounded to a double that does not exceed it. -/
theorem ofRatio_le (negative : Bool) {num den n : Nat} {e : Int} (hden : 0 < den)
    (hn : n < 2 * leastFull) (hmin : minExponent ≤ e) (hmax : e ≤ maxExponent)
    (h : (num / den : Rat) ≤ n * 2 ^ e) :
    ∃ m f, ofRatio negative num den = finite negative m f ∧ scaled m f ≤ n * 2 ^ e := by
  rcases Nat.eq_zero_or_pos num with rfl | hnum
  · refine ⟨0, minExponent, rfl, ?_⟩
    rw [scaled_eq, Nat.cast_zero, zero_mul]
    positivity
  have hexp := exponent_le hnum hden hn hmin h
  set x := exponent num den with hx
  have hshift : ((n * 2 ^ (e - x).toNat : Nat) : Rat) * 2 ^ x = n * 2 ^ e := by
    have hadd : (2 : Rat) ^ e = 2 ^ (e - x) * 2 ^ x := by
      rw [← zpow_add₀ (by norm_num), Int.sub_add_cancel]
    rw [hadd, Nat.cast_mul, Nat.cast_pow, Nat.cast_ofNat, ← zpow_natCast,
      Int.toNat_of_nonneg (by omega), mul_assoc]
  have hmantissa : (mantissa num den x : Rat) * 2 ^ x ≤ n * 2 ^ e := by
    rw [← hshift] at h ⊢
    have hle : (mantissa num den x : Rat) ≤ ((n * 2 ^ (e - x).toNat : Nat) : Rat) := by
      exact_mod_cast mantissa_le hden h
    exact mul_le_mul_of_nonneg_right hle (by positivity)
  rw [ofRatio_eq hnum.ne', ← hx]
  dsimp only
  by_cases hcarry : mantissa num den x = 2 * leastFull
  · -- A mantissa with a bit too many can only come from an exponent that is below the double's.
    have hlt : x < e := by
      refine lt_of_le_of_ne hexp ?_
      intro heq
      rw [hcarry, heq] at hmantissa
      have hle := le_of_mul_le_mul_right hmantissa (by positivity)
      have hle' : 2 * leastFull ≤ n := by exact_mod_cast hle
      omega
    rw [if_pos hcarry]
    dsimp only
    rw [if_neg (by omega)]
    refine ⟨_, _, rfl, ?_⟩
    have hsame : scaled leastFull (x + 1) = (mantissa num den x : Rat) * 2 ^ x := by
      rw [scaled_eq, zpow_add₀ (by norm_num), hcarry]
      push_cast
      ring
    rw [hsame]
    exact hmantissa
  · rw [if_neg hcarry]
    dsimp only
    rw [if_neg (by omega)]
    refine ⟨_, _, rfl, ?_⟩
    rw [scaled_eq]
    exact hmantissa

/-- A rounded ratio with a full mantissa is less than one unit of it above the ratio. -/
theorem pred_mul_lt_of_ofRatio {negative : Bool} {num den : Nat} (hden : 0 < den) {b : Bool}
    {m : Nat} {e : Int} (h : ofRatio negative num den = finite b m e) (hfull : leastFull ≤ m) :
    (((m - 1 : Nat) : Rat) * 2 ^ e) < num / den := by
  have hleast : leastFull = 2 ^ 52 := by decide
  have hnum : num ≠ 0 := by
    rintro rfl
    cases h
    omega
  by_contra hle
  rw [not_lt] at hle
  rcases (ofRatio_eq_finite hnum h).2 with ⟨hm, he⟩ | ⟨hcarry, hm, he⟩
  · rw [he] at hle
    have hbound := mantissa_le hden hle
    omega
  · have htwice : (((2 * (m - 1) : Nat) : Rat) * 2 ^ exponent num den)
        = ((m - 1 : Nat) : Rat) * 2 ^ e := by
      rw [he, zpow_add₀ (by norm_num)]
      push_cast
      ring
    rw [← htwice] at hle
    have hbound := mantissa_le hden hle
    omega

end RetrievalTelemetry.Binary64
