/-
One form for each number.

Mantissa and exponent can write one number in many ways.  Rounding uses only one of them: a
mantissa below `2^53`, and a full one unless the exponent is the least one.  Two numbers of this
form that have the same value are the same number, the two zeros apart.  So among the numbers that
are rounded and no negative zeros, those that compare equal are equal, and sorting leaves no choice.
-/
import Mathlib.Algebra.Order.Field.Power
import Mathlib.Tactic.Linarith
import RetrievalTelemetry.Proofs.Binary64.Order
import RetrievalTelemetry.Proofs.Binary64.Range

namespace RetrievalTelemetry.Binary64

/-! ### Mantissa and exponent -/

/-- The form that rounding gives: a short mantissa only with the least exponent. -/
structure IsCanonical (m : Nat) (e : Int) : Prop where
  short : m < 2 * leastFull
  minExponent_le : minExponent ≤ e
  full : leastFull ≤ m ∨ e = minExponent

/-- A number in this form has no other one with a greater exponent. -/
theorem IsCanonical.exponent_le {m n : Nat} {e f : Int} (hm : IsCanonical m e)
    (hn : IsCanonical n f) (h : scaled m e = scaled n f) : f ≤ e := by
  by_contra hlt
  have hfull : leastFull ≤ n := by
    rcases hn.full with hfull | hmin
    · exact hfull
    · have := hm.minExponent_le
      omega
  rw [scaled_eq, scaled_eq] at h
  have hpos : (0 : Rat) < 2 ^ e := by positivity
  have htwice : (2 : Rat) * 2 ^ e ≤ 2 ^ f := by
    rw [← zpow_one_add₀ (by norm_num)]
    exact zpow_le_zpow_right₀ (by norm_num) (by omega)
  -- Then the other mantissa is at least twice as large, which is too large.
  have hlarge : ((2 * n : Nat) : Rat) * 2 ^ e ≤ m * 2 ^ e := by
    calc ((2 * n : Nat) : Rat) * 2 ^ e = n * (2 * 2 ^ e) := by push_cast; ring
      _ ≤ n * 2 ^ f := mul_le_mul_of_nonneg_left htwice (Nat.cast_nonneg n)
      _ = m * 2 ^ e := h.symm
  have hle : 2 * n ≤ m := by exact_mod_cast le_of_mul_le_mul_right hlarge hpos
  have hshort := hm.short
  omega

/-- The value of a number in this form determines mantissa and exponent. -/
theorem IsCanonical.unique {m n : Nat} {e f : Int} (hm : IsCanonical m e) (hn : IsCanonical n f)
    (h : scaled m e = scaled n f) : m = n ∧ e = f := by
  obtain rfl : e = f := by
    have hle := hm.exponent_le hn h
    have hge := hn.exponent_le hm h.symm
    omega
  rw [scaled_eq, scaled_eq] at h
  have hpos : (0 : Rat) < 2 ^ e := by positivity
  exact ⟨by exact_mod_cast mul_right_cancel₀ hpos.ne' h, rfl⟩

theorem isCanonical_zero : IsCanonical 0 minExponent :=
  ⟨by decide, Int.le_refl _, Or.inr rfl⟩

/-- The mantissa for the exponent that is used for a ratio has at most 53 bits, but for a carry, and
only the least exponent leaves some of them unused. -/
theorem mantissa_bounds {num den : Nat} (hnum : 0 < num) (hden : 0 < den) :
    mantissa num den (exponent num den) ≤ 2 * leastFull ∧
      (leastFull ≤ mantissa num den (exponent num den) ∨ exponent num den = minExponent) := by
  obtain ⟨hlow, hhigh⟩ := floorLog2_bounds hnum hden
  have hone : (1 : Rat) ≤ 2 := by norm_num
  have hscale : ∀ j : Nat, ((2 ^ j : Nat) : Rat) * 2 ^ exponent num den
      = 2 ^ ((j : Int) + exponent num den) := by
    intro j
    rw [zpow_add₀ (by norm_num), zpow_natCast]
    push_cast
    rfl
  have htwice : 2 * leastFull = 2 ^ 53 := by decide
  have hleast : leastFull = 2 ^ 52 := by decide
  constructor
  · refine mantissa_le hden (hhigh.le.trans ?_)
    rw [htwice, hscale]
    refine zpow_le_zpow_right₀ hone ?_
    unfold exponent
    push_cast
    omega
  · by_cases hmin : exponent num den = minExponent
    · exact Or.inr hmin
    · refine Or.inl (le_mantissa hden (le_trans ?_ hlow))
      rw [hleast, hscale]
      refine zpow_le_zpow_right₀ hone ?_
      unfold exponent at hmin ⊢
      push_cast
      omega

/-- A rounded ratio is infinite, or it is in this form. -/
theorem isCanonical_ofRatio {negative : Bool} {num den : Nat} (hden : 0 < den) {b : Bool} {m : Nat}
    {e : Int} (h : ofRatio negative num den = finite b m e) : b = negative ∧ IsCanonical m e := by
  rcases Nat.eq_zero_or_pos num with rfl | hnum
  · cases h
    exact ⟨rfl, isCanonical_zero⟩
  · obtain ⟨hhigh, hfull⟩ := mantissa_bounds hnum hden
    have hmin : minExponent ≤ exponent num den := Int.le_max_right _ _
    rw [ofRatio_eq hnum.ne'] at h
    dsimp only at h
    split at h
    · split at h
      · cases h
      · cases h
        have hshort : leastFull < 2 * leastFull := by decide
        exact ⟨rfl, hshort, by dsimp only; omega, Or.inl (Nat.le_refl _)⟩
    · rename_i hcarry
      split at h
      · cases h
      · cases h
        exact ⟨rfl, by omega, hmin, hfull⟩

/-! ### Numbers that are plain -/

/-- A double that rounding can give and that is neither a NaN nor the negative zero. -/
def IsPlain : Binary64 → Prop
  | nan => False
  | infinity _ => True
  | finite negative m e => IsCanonical m e ∧ (negative = true → m ≠ 0)

theorem IsPlain.isNaN {x : Binary64} (hx : x.IsPlain) : x.isNaN = false := by
  cases x with
  | nan => exact hx.elim
  | infinity => rfl
  | finite => rfl

theorem scaled_eq_zero_iff {m : Nat} {e : Int} : scaled m e = 0 ↔ m = 0 := by
  have hpos : (0 : Rat) < 2 ^ e := by positivity
  rw [scaled_eq, mul_eq_zero, Nat.cast_eq_zero]
  simp [hpos.ne']

theorem IsPlain.eq_of_toRat_eq {a b : Bool} {m n : Nat} {e f : Int}
    (hx : (finite a m e).IsPlain) (hy : (finite b n f).IsPlain)
    (h : (finite a m e).toRat = (finite b n f).toRat) : finite a m e = finite b n f := by
  obtain ⟨hm, hma⟩ := hx
  obtain ⟨hn, hnb⟩ := hy
  have hm0 := scaled_nonneg m e
  have hn0 := scaled_nonneg n f
  -- Numbers of different signs can only agree as zeros, and the negative one is not zero.
  cases a with
  | false =>
      cases b with
      | false =>
          obtain ⟨rfl, rfl⟩ := hm.unique hn h
          rfl
      | true =>
          have hzero : scaled n f = 0 := by
            simp only [toRat] at h
            linarith
          exact absurd (scaled_eq_zero_iff.mp hzero) (hnb rfl)
  | true =>
      cases b with
      | false =>
          have hzero : scaled m e = 0 := by
            simp only [toRat] at h
            linarith
          exact absurd (scaled_eq_zero_iff.mp hzero) (hma rfl)
      | true =>
          obtain ⟨rfl, rfl⟩ := hm.unique hn (neg_injective h)
          rfl

/-- Plain numbers at the same place are equal. -/
theorem IsPlain.eq_of_rank_eq {x y : Binary64} (hx : x.IsPlain) (hy : y.IsPlain)
    (h : x.rank = y.rank) : x = y := by
  cases x with
  | nan => exact hx.elim
  | infinity a =>
      cases y with
      | nan => exact hy.elim
      | infinity b => cases a <;> cases b <;> simp_all [rank]
      | finite b n f => cases a <;> simp [rank] at h
  | finite a m e =>
      cases y with
      | nan => exact hy.elim
      | infinity b => cases b <;> simp [rank, WithBot.coe_eq_top] at h
      | finite b n f =>
          refine hx.eq_of_toRat_eq hy ?_
          exact WithTop.coe_injective (WithBot.coe_injective h)

theorem isPlain_ofRatio (num : Nat) {den : Nat} (hden : 0 < den) :
    (ofRatio false num den).IsPlain := by
  cases h : ofRatio false num den with
  | nan =>
      have hnan := isNaN_ofRatio false num den
      rw [h] at hnan
      cases hnan
  | infinity => trivial
  | finite b m e =>
      obtain ⟨rfl, hcanonical⟩ := isCanonical_ofRatio hden h
      exact ⟨hcanonical, nofun⟩

theorem isPlain_ofInt (n : Int) : (ofInt n).IsPlain := by
  cases h : ofInt n with
  | nan =>
      have hnan := isNaN_ofRatio (n < 0) n.natAbs 1
      unfold ofInt at h
      rw [h] at hnan
      cases hnan
  | infinity => trivial
  | finite b m e =>
      have hofInt := h
      unfold ofInt at h
      obtain ⟨hsign, hcanonical⟩ := isCanonical_ofRatio Nat.one_pos h
      refine ⟨hcanonical, fun hb => ?_⟩
      rintro rfl
      have hneg : n < 0 := by simpa [hb] using hsign
      have hone := one_le_scaled_of_ofInt hneg.ne hofInt
      rw [scaled_eq, Nat.cast_zero, zero_mul] at hone
      norm_num at hone

end RetrievalTelemetry.Binary64
