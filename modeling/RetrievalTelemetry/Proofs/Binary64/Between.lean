/-
Arithmetic that stays between doubles.

Rounding passes no double in either direction, so a sum or a product that is between two doubles is
rounded to a double between them, and one that is a double is exact.  The fraction after the whole
part of a double is a double, and it stays below one by at least a unit in the last place of one.

That distance is what makes interpolation safe.  A rounded difference can be greater than the
difference, but a part of it that leaves out so much never is, not even after it is rounded once
more.  So the start of an interval plus a part of its length is not beyond its end.
-/
import Mathlib.Algebra.Order.Floor.Ring
import Mathlib.Data.Rat.Floor
import RetrievalTelemetry.Proofs.Binary64.Accuracy

namespace RetrievalTelemetry.Binary64

/-! ### Values of doubles -/

/-- A finite number in the form that rounding gives. -/
def IsDouble : Binary64 → Prop
  | finite _ m e => IsCanonical m e ∧ e ≤ maxExponent
  | _ => False

instance : DecidablePred IsDouble := fun x =>
  match x with
  | finite _ m e =>
    decidable_of_iff (m < 2 * leastFull ∧ minExponent ≤ e ∧ (leastFull ≤ m ∨ e = minExponent) ∧
        e ≤ maxExponent)
      ⟨fun ⟨h, h', h'', hmax⟩ => ⟨⟨h, h', h''⟩, hmax⟩,
        fun ⟨⟨h, h', h''⟩, hmax⟩ => ⟨h, h', h'', hmax⟩⟩
  | nan => isFalse fun h => h
  | infinity _ => isFalse fun h => h

/-- A rational number that a double can have as its value. -/
def IsValue (q : Rat) : Prop :=
  ∃ (n : Nat) (e : Int), n < 2 * leastFull ∧ minExponent ≤ e ∧ e ≤ maxExponent ∧ |q| = n * 2 ^ e

theorem IsDouble.isFinite {x : Binary64} (hx : x.IsDouble) : x.isFinite = true := by
  cases x with
  | finite => rfl
  | _ => exact hx.elim

theorem IsDouble.isNaN {x : Binary64} (hx : x.IsDouble) : x.isNaN = false := by
  cases x with
  | finite => rfl
  | _ => exact hx.elim

theorem IsDouble.isValue {x : Binary64} (hx : x.IsDouble) : IsValue x.toRat := by
  cases x with
  | finite b m e =>
      obtain ⟨hcanonical, hmax⟩ := hx
      refine ⟨m, e, hcanonical.short, hcanonical.minExponent_le, hmax, ?_⟩
      rw [abs_toRat_finite, scaled_eq]
  | _ => exact hx.elim

theorem IsValue.neg {q : Rat} (h : IsValue q) : IsValue (-q) := by
  obtain ⟨n, e, hn, hmin, hmax, hq⟩ := h
  exact ⟨n, e, hn, hmin, hmax, by rwa [abs_neg]⟩

theorem isValue_zero : IsValue 0 :=
  ⟨0, 0, by decide, by decide, by decide, by norm_num⟩

theorem toRat_neg (x : Binary64) : x.neg.toRat = -x.toRat := by
  cases x with
  | finite b m e => cases b <;> simp [neg, toRat]
  | _ => simp [neg, toRat]

theorem IsDouble.neg {x : Binary64} (hx : x.IsDouble) : x.neg.IsDouble := by
  cases x with
  | finite => exact hx
  | _ => exact hx.elim

/-- Doubles are compared as their values are. -/
theorem IsDouble.le_iff {x y : Binary64} (hx : x.IsDouble) (hy : y.IsDouble) :
    x.le y = true ↔ x.toRat ≤ y.toRat := by
  rw [Binary64.le_iff hx.isNaN hy.isNaN]
  cases x with
  | finite a m e =>
      cases y with
      | finite b n f => simp [rank]
      | _ => exact hy.elim
  | _ => exact hx.elim

theorem IsDouble.eq_iff {x y : Binary64} (hx : x.IsDouble) (hy : y.IsDouble) :
    x.eq y = true ↔ x.toRat = y.toRat := by
  rw [Binary64.eq_iff hx.isNaN hy.isNaN]
  cases x with
  | finite a m e =>
      cases y with
      | finite b n f => simp [rank]
      | _ => exact hy.elim
  | _ => exact hx.elim

/-- A number with a smaller exponent. -/
theorem mul_two_zpow_of_le (n : Nat) {x e : Int} (h : x ≤ e) :
    ((n * 2 ^ (e - x).toNat : Nat) : Rat) * 2 ^ x = n * 2 ^ e := by
  have hadd : (2 : Rat) ^ e = 2 ^ (e - x) * 2 ^ x := by
    rw [← zpow_add₀ (by norm_num), Int.sub_add_cancel]
  rw [hadd, Nat.cast_mul, Nat.cast_pow, Nat.cast_ofNat, ← zpow_natCast,
    Int.toNat_of_nonneg (by omega), mul_assoc]

/-- All values are multiples of the least one. -/
theorem IsDouble.exists_multiple {x : Binary64} (hx : x.IsDouble) :
    ∃ k : Int, x.toRat = k * 2 ^ minExponent := by
  cases x with
  | finite b m e =>
      have hscaled := scaled_eq m e
      rw [← mul_two_zpow_of_le m hx.1.minExponent_le] at hscaled
      cases b with
      | false => exact ⟨_, hscaled.trans (by rw [← Int.cast_natCast])⟩
      | true =>
          refine ⟨-(m * 2 ^ (e - minExponent).toNat : Nat), ?_⟩
          rw [toRat, hscaled, Int.cast_neg, Int.cast_natCast, neg_mul]
  | _ => exact hx.elim

/-! ### Rounding between values -/

theorem isDouble_of_ofRatio {negative : Bool} {num den : Nat} (hden : 0 < den) {b : Bool} {m : Nat}
    {e : Int} (h : ofRatio negative num den = finite b m e) : (finite b m e).IsDouble := by
  refine ⟨(isCanonical_ofRatio hden h).2, ?_⟩
  rcases Nat.eq_zero_or_pos num with rfl | hnum
  · cases h
    decide
  · exact (ofRatio_eq_finite hnum.ne' h).1

/-- A ratio that is not below a double is not rounded to a double below it. -/
theorem le_scaled_of_ofRatio {negative : Bool} {num den n : Nat} {e : Int} (hden : 0 < den)
    (hn : n < 2 * leastFull) (hmin : minExponent ≤ e) (h : (n * 2 ^ e : Rat) ≤ num / den) {b : Bool}
    {m : Nat} {f : Int} (hround : ofRatio negative num den = finite b m f) :
    (n * 2 ^ e : Rat) ≤ scaled m f := by
  rcases Nat.eq_zero_or_pos num with rfl | hnum
  · rw [Nat.cast_zero, zero_div] at h
    exact h.trans (scaled_nonneg m f)
  rw [scaled_ofRatio hnum.ne' hround]
  set x := exponent num den with hx
  have hpos : (0 : Rat) < 2 ^ x := by positivity
  rcases le_or_gt x e with hle | hlt
  · rw [← mul_two_zpow_of_le n hle] at h ⊢
    have hm : ((n * 2 ^ (e - x).toNat : Nat) : Rat) ≤ mantissa num den x := by
      exact_mod_cast le_mantissa hden h
    exact mul_le_mul_of_nonneg_right hm hpos.le
  · -- With a greater exponent the mantissa is a full one.
    have hfull : leastFull ≤ mantissa num den x :=
      (mantissa_bounds hnum hden).2.resolve_right (by omega)
    have hleast : (2 : Rat) ^ (52 : Int) ≤ mantissa num den x := by
      have hpower : leastFull = 2 ^ 52 := by decide
      rw [hpower] at hfull
      exact_mod_cast hfull
    calc (n * 2 ^ e : Rat) ≤ 2 ^ (53 + e) := (mul_two_zpow_lt hn e).le
      _ ≤ 2 ^ (52 + x) := zpow_le_zpow_right₀ (by norm_num) (by omega)
      _ = 2 ^ (52 : Int) * 2 ^ x := zpow_add₀ (by norm_num) _ _
      _ ≤ mantissa num den x * 2 ^ x := mul_le_mul_of_nonneg_right hleast hpos.le

/-- A double with a value between two numbers. -/
structure Between (lo hi : Rat) (x : Binary64) : Prop where
  isDouble : x.IsDouble
  low : lo ≤ x.toRat
  high : x.toRat ≤ hi

theorem Between.eq {q : Rat} {x : Binary64} (h : Between q q x) : x.toRat = q :=
  le_antisymm h.high h.low

variable {lo hi q : Rat}

theorem IsValue.ratio_between (hlo : IsValue lo) (hhi : IsValue hi) (negative : Bool)
    {num den : Nat} (hden : 0 < den) (hlow : lo ≤ num / den) (hhigh : (num / den : Rat) ≤ hi) :
    ∃ m e, ofRatio negative num den = finite negative m e ∧ lo ≤ scaled m e ∧ scaled m e ≤ hi := by
  have hratio : (0 : Rat) ≤ num / den := by positivity
  obtain ⟨n, e, hn, hmin, hmax, hvalue⟩ := hhi
  rw [abs_of_nonneg (hratio.trans hhigh)] at hvalue
  rw [hvalue] at hhigh ⊢
  obtain ⟨m, f, hround, hle⟩ := ofRatio_le negative hden hn hmin hmax hhigh
  refine ⟨m, f, hround, ?_, hle⟩
  rcases le_total lo 0 with hneg | hpos
  · exact hneg.trans (scaled_nonneg m f)
  · obtain ⟨n', e', hn', hmin', -, hvalue'⟩ := hlo
    rw [abs_of_nonneg hpos] at hvalue'
    rw [hvalue'] at hlow ⊢
    exact le_scaled_of_ofRatio hden hn' hmin' hlow hround

/-- What is between two values is rounded to a double between them. -/
theorem between_ofRatio (hlo : IsValue lo) (hhi : IsValue hi) (hlow : lo ≤ q) (hhigh : q ≤ hi)
    {negative : Bool} (hsign : if negative then q ≤ 0 else 0 ≤ q) :
    Between lo hi (ofRatio negative q.num.natAbs q.den) := by
  cases negative with
  | false =>
      have hratio : (q.num.natAbs : Rat) / q.den = q := by
        rw [natAbs_num_div_den, abs_of_nonneg hsign]
      obtain ⟨m, e, hround, hm, hm'⟩ := hlo.ratio_between hhi false q.den_pos
        (hratio.symm ▸ hlow) (hratio.symm ▸ hhigh)
      rw [hround]
      exact ⟨isDouble_of_ofRatio q.den_pos hround, hm, hm'⟩
  | true =>
      have hratio : (q.num.natAbs : Rat) / q.den = -q := by
        rw [natAbs_num_div_den, abs_of_nonpos hsign]
      obtain ⟨m, e, hround, hm, hm'⟩ := hhi.neg.ratio_between hlo.neg true q.den_pos
        (hratio.symm ▸ neg_le_neg hhigh) (hratio.symm ▸ neg_le_neg hlow)
      rw [hround]
      exact ⟨isDouble_of_ofRatio q.den_pos hround, le_neg.mp hm', neg_le.mp hm⟩

theorem toRat_finite_zero (b : Bool) (e : Int) : (finite b 0 e).toRat = 0 := by
  rw [← abs_eq_zero, abs_toRat_finite, scaled_eq_zero_iff]

theorem isDouble_zero (b : Bool) : (zero b).IsDouble := ⟨isCanonical_zero, by decide⟩

variable {x y : Binary64}

theorem add_finite (a b : Bool) (m n : Nat) (e f : Int) :
    (finite a m e).add (finite b n f) =
      if m = 0 ∧ n = 0 then zero (a && b)
      else ofRat ((finite a m e).toRat + (finite b n f).toRat) :=
  rfl

theorem mul_finite (a b : Bool) (m n : Nat) (e f : Int) :
    (finite a m e).mul (finite b n f) =
      ofRatio (a ^^ b) ((finite a m e).toRat * (finite b n f).toRat).num.natAbs
        ((finite a m e).toRat * (finite b n f).toRat).den :=
  rfl

theorem IsDouble.add_between (hx : x.IsDouble) (hy : y.IsDouble) (hlo : IsValue lo)
    (hhi : IsValue hi) (hlow : lo ≤ x.toRat + y.toRat) (hhigh : x.toRat + y.toRat ≤ hi) :
    Between lo hi (x.add y) := by
  cases x with
  | finite a m e =>
      cases y with
      | finite b n f =>
          rw [add_finite]
          split
          · rename_i hzero
            obtain ⟨rfl, rfl⟩ := hzero
            rw [toRat_finite_zero, toRat_finite_zero, add_zero] at hlow hhigh
            exact ⟨isDouble_zero _, (toRat_finite_zero ..).symm ▸ hlow,
              (toRat_finite_zero ..).symm ▸ hhigh⟩
          · refine between_ofRatio hlo hhi hlow hhigh ?_
            split
            · rename_i hneg
              exact (of_decide_eq_true hneg).le
            · rename_i hneg
              exact not_lt.mp fun h => hneg (decide_eq_true h)
      | _ => exact hy.elim
  | _ => exact hx.elim

theorem IsDouble.sub_between (hx : x.IsDouble) (hy : y.IsDouble) (hlo : IsValue lo)
    (hhi : IsValue hi) (hlow : lo ≤ x.toRat - y.toRat) (hhigh : x.toRat - y.toRat ≤ hi) :
    Between lo hi (x.sub y) := by
  rw [sub_eq_add_neg, ← toRat_neg] at hlow hhigh
  exact hx.add_between hy.neg hlo hhi hlow hhigh

theorem toRat_mul_sign (a b : Bool) (m n : Nat) (e f : Int) :
    if a ^^ b then (finite a m e).toRat * (finite b n f).toRat ≤ 0
    else 0 ≤ (finite a m e).toRat * (finite b n f).toRat := by
  have hproduct := mul_nonneg (scaled_nonneg m e) (scaled_nonneg n f)
  cases a <;> cases b <;> simpa [toRat] using hproduct

theorem IsDouble.mul_between (hx : x.IsDouble) (hy : y.IsDouble) (hlo : IsValue lo)
    (hhi : IsValue hi) (hlow : lo ≤ x.toRat * y.toRat) (hhigh : x.toRat * y.toRat ≤ hi) :
    Between lo hi (x.mul y) := by
  cases x with
  | finite a m e =>
      cases y with
      | finite b n f => exact between_ofRatio hlo hhi hlow hhigh (toRat_mul_sign a b m n e f)
      | _ => exact hy.elim
  | _ => exact hx.elim

/-! ### Whole parts and fractions -/

theorem isValue_natCast {n : Nat} (hn : n ≤ maxExact) : IsValue n := by
  obtain ⟨m, e, hround, hvalue⟩ := isNat_ofInt hn
  have hdouble := (isDouble_of_ofRatio Nat.one_pos hround).isValue
  have htoRat : (finite false m e).toRat = n := hvalue
  rwa [htoRat] at hdouble

theorem isDouble_ofInt {n : Nat} (hn : n ≤ maxExact) :
    (ofInt n).IsDouble ∧ (ofInt n).toRat = n := by
  obtain ⟨m, e, hround, hvalue⟩ := isNat_ofInt hn
  have hdouble := isDouble_of_ofRatio Nat.one_pos hround
  rw [hround]
  exact ⟨hdouble, hvalue⟩

/-- The distance of the greatest double below one from one. -/
def unitBelowOne : Rat := 2 ^ (-53 : Int)

theorem unitBelowOne_pos : 0 < unitBelowOne := by norm_num [unitBelowOne]

/-- Bits of a mantissa that stand behind the point stay far enough below one. -/
theorem mod_le_of_lt {n : Nat} (hn : n < 2 * leastFull) (k : Nat) :
    ((n % 2 ^ k : Nat) : Rat) ≤ (1 - unitBelowOne) * ((2 ^ k : Nat) : Rat) := by
  rcases le_or_gt k 53 with hsmall | hlarge
  · -- The last unit of the fraction is at least the distance.
    have hmod : n % 2 ^ k + 1 ≤ 2 ^ k := Nat.mod_lt _ (Nat.two_pow_pos k)
    have hmod' : ((n % 2 ^ k : Nat) : Rat) + 1 ≤ (2 ^ k : Nat) := by exact_mod_cast hmod
    have hunit : unitBelowOne * ((2 ^ k : Nat) : Rat) ≤ 1 := by
      rw [unitBelowOne, Nat.cast_pow, Nat.cast_ofNat, ← zpow_natCast,
        ← zpow_add₀ (by norm_num), ← zpow_zero (2 : Rat)]
      exact zpow_le_zpow_right₀ (by norm_num) (by omega)
    linarith
  · -- A short mantissa does not reach a half.
    have hshort : n % 2 ^ k ≤ 2 ^ 53 := (Nat.mod_le _ _).trans (by
      have htwice : 2 * leastFull = 2 ^ 53 := by decide
      omega)
    have hhalf : 2 * 2 ^ 53 ≤ 2 ^ k := by
      rw [← pow_succ']
      exact Nat.pow_le_pow_right (by norm_num) hlarge
    have hbound : (2 : Rat) * (n % 2 ^ k : Nat) ≤ (2 ^ k : Nat) := by
      exact_mod_cast (Nat.mul_le_mul_left 2 hshort).trans hhalf
    have hunit : unitBelowOne ≤ 1 / 2 := by norm_num [unitBelowOne]
    nlinarith

/-- The fraction of a value is a value, and far enough below one. -/
theorem IsValue.fract (hq : IsValue q) (hnonneg : 0 ≤ q) :
    IsValue (Int.fract q) ∧ Int.fract q ≤ 1 - unitBelowOne := by
  obtain ⟨n, e, hn, hmin, hmax, hvalue⟩ := hq
  rw [abs_of_nonneg hnonneg] at hvalue
  rcases le_or_gt 0 e with he | he
  · have hwhole : q = ((n * 2 ^ e.toNat : Nat) : Rat) := by
      rw [hvalue, Nat.cast_mul, Nat.cast_pow, Nat.cast_ofNat, ← zpow_natCast,
        Int.toNat_of_nonneg he]
    rw [hwhole, Int.fract_natCast]
    exact ⟨isValue_zero, by norm_num [unitBelowOne]⟩
  · set k := (-e).toNat with hk
    have hpow : (2 : Rat) ^ e = ((2 ^ k : Nat) : Rat)⁻¹ := by
      rw [Nat.cast_pow, Nat.cast_ofNat, ← zpow_natCast, ← zpow_neg, hk]
      congr 1
      omega
    have hfract : Int.fract q = ((n % 2 ^ k : Nat) : Rat) * 2 ^ e := by
      rw [hvalue, hpow, ← div_eq_mul_inv, Int.fract_div_natCast_eq_div_natCast_mod,
        div_eq_mul_inv]
    refine ⟨⟨n % 2 ^ k, e, lt_of_le_of_lt (Nat.mod_le _ _) hn, hmin, hmax, ?_⟩, ?_⟩
    · rw [abs_of_nonneg (Int.fract_nonneg q), hfract]
    · have hpos : (0 : Rat) < (2 ^ k : Nat) := by positivity
      rw [hfract, hpow, ← div_eq_mul_inv, div_le_iff₀ hpos]
      exact mod_le_of_lt hn k

/-- What is left of a double after its whole part is exact. -/
theorem IsDouble.sub_floor (hx : x.IsDouble) (hnonneg : 0 ≤ x.toRat) (hmax : x.toRat ≤ maxExact) :
    (x.sub (ofInt ⌊x.toRat⌋)).IsDouble ∧
      (x.sub (ofInt ⌊x.toRat⌋)).toRat = Int.fract x.toRat := by
  obtain ⟨whole, hwhole⟩ := Int.eq_ofNat_of_zero_le (Int.floor_nonneg.mpr hnonneg)
  have hle : whole ≤ maxExact := by
    have hfloor := (Int.floor_le x.toRat).trans hmax
    rw [hwhole] at hfloor
    exact_mod_cast hfloor
  obtain ⟨hdouble, hvalue⟩ := isDouble_ofInt hle
  have hvalue' : x.toRat - (ofInt ⌊x.toRat⌋).toRat = Int.fract x.toRat := by
    rw [hwhole, hvalue, Int.fract, hwhole, Int.cast_natCast]
  have hfract := (hx.isValue.fract hnonneg).1
  rw [← hwhole] at hdouble
  have hbetween := hx.sub_between hdouble hfract hfract hvalue'.ge hvalue'.le
  exact ⟨hbetween.isDouble, hbetween.eq⟩

/-! ### Parts of a rounded number -/

theorem leastFull_mul_two_zpow (x : Int) : (leastFull : Rat) * 2 ^ x = 2 ^ (x + 52) := by
  have hpower : leastFull = 2 ^ 52 := by decide
  rw [hpower, add_comm, zpow_add₀ (by norm_num), Nat.cast_pow, Nat.cast_ofNat]
  norm_cast

/-- Of more than a full mantissa, the part left out is more than half a unit of the last place. -/
theorem half_lt_mul_unitBelowOne {x : Int} {q : Rat} (h : (2 : Rat) ^ (x + 52) < q) :
    (2 : Rat) ^ x / 2 < q * unitBelowOne := by
  have hsame : (2 : Rat) ^ (x + 52) * unitBelowOne = 2 ^ x / 2 := by
    rw [unitBelowOne, ← zpow_add₀ (by norm_num), div_eq_mul_inv, ← zpow_neg_one,
      ← zpow_add₀ (by norm_num)]
    congr 1
    omega
  rw [← hsame]
  exact mul_lt_mul_of_pos_right h unitBelowOne_pos

/-- What a mantissa reaches at most. -/
theorem mul_two_zpow_le_of_short {n : Nat} (hn : n ≤ 2 * leastFull) (x : Int) :
    (n : Rat) * 2 ^ x ≤ 2 ^ (x + 52 + 1) := by
  have hshort : (n : Rat) ≤ 2 * leastFull := by exact_mod_cast hn
  calc (n : Rat) * 2 ^ x ≤ 2 * leastFull * 2 ^ x :=
        mul_le_mul_of_nonneg_right hshort (by positivity)
    _ = 2 * 2 ^ (x + 52) := by rw [mul_assoc, leastFull_mul_two_zpow]
    _ = 2 ^ (x + 52 + 1) := by rw [zpow_add_one₀ (by norm_num), mul_comm]

/-- A multiple of the least value that is rounded up has a full mantissa. -/
theorem full_of_rounded_up {num den k m : Nat} {e : Int} (hden : 0 < den)
    (hmultiple : (num / den : Rat) = k * 2 ^ minExponent)
    (hround : ofRatio false num den = finite false m e) (hup : (num / den : Rat) < scaled m e) :
    num ≠ 0 ∧ (2 : Rat) ^ (exponent num den + 52) ≤ num / den ∧
      minExponent ≤ exponent num den ∧ exponent num den ≤ maxExponent := by
  have hnum : num ≠ 0 := by
    rintro rfl
    cases hround
    rw [scaled_eq, Nat.cast_zero, zero_mul, zero_div] at hup
    exact absurd hup (lt_irrefl 0)
  have hmin : minExponent ≤ exponent num den := Int.le_max_right _ _
  refine ⟨hnum, ?_, hmin, ?_⟩
  · have hne : exponent num den ≠ minExponent := by
      -- With the least exponent nothing has to be rounded.
      intro heq
      have hsame : mantissa num den minExponent = k :=
        Nat.le_antisymm (mantissa_le hden hmultiple.le) (le_mantissa hden hmultiple.ge)
      rw [scaled_ofRatio hnum hround, heq, hsame, ← hmultiple] at hup
      exact lt_irrefl _ hup
    have hlog : exponent num den + 52 = floorLog2 num den := by
      unfold exponent at hne ⊢
      omega
    rw [hlog]
    exact (floorLog2_bounds (Nat.pos_of_ne_zero hnum) hden).1
  · obtain ⟨hmax, ⟨-, he⟩ | ⟨-, -, he⟩⟩ := ofRatio_eq_finite hnum hround <;> omega

/-- A part that leaves out so much has a smaller mantissa, if it has the same exponent at all. -/
theorem scaled_le_of_part {num den : Nat} (hnum : 0 < num) (hden : 0 < den) {m : Nat} {e : Int}
    (hround : ofRatio false num den = finite false m e) {r : Rat}
    (hlarge : (2 : Rat) ^ (exponent num den + 52) < r)
    (hle : r ≤ scaled m e - scaled m e * unitBelowOne) {negative b : Bool} {m' : Nat} {e' : Int}
    (hpart : ofRatio negative r.num.natAbs r.den = finite b m' e') : scaled m' e' ≤ num / den := by
  have hvalue := scaled_ofRatio hnum.ne' hround
  have hmin : minExponent ≤ exponent num den := Int.le_max_right _ _
  have hnear := (abs_le.mp (abs_mantissa_sub_le num hden (exponent num den))).2
  have hshort := (mantissa_bounds hnum hden).1
  rw [hvalue] at hle
  generalize exponent num den = x at *
  generalize mantissa num den x = n at *
  have hpow : (0 : Rat) < 2 ^ x := by positivity
  have hr0 : 0 < r := lt_trans (by positivity) hlarge
  have hratio : (r.num.natAbs : Rat) / r.den = r := by
    rw [natAbs_num_div_den, abs_of_pos hr0]
  have hrnum : 0 < r.num.natAbs := Int.natAbs_pos.mpr (Rat.num_ne_zero.mpr hr0.ne')
  have hwhole : (2 : Rat) ^ (x + 52) < n * 2 ^ x :=
    hlarge.trans_le (hle.trans (sub_le_self _ (mul_nonneg (by positivity) unitBelowOne_pos.le)))
  have hhalf := half_lt_mul_unitBelowOne hwhole
  have hbelow : r < 2 ^ (x + 52 + 1) := by
    have hcap := mul_two_zpow_le_of_short hshort x
    linarith
  have hexponent : exponent r.num.natAbs r.den = x := by
    have hlog := floorLog2_eq hrnum r.den_pos (hratio.symm ▸ hlarge.le) (hratio.symm ▸ hbelow)
    unfold exponent
    omega
  have hpartNear := (abs_le.mp (abs_mantissa_sub_le r.num.natAbs r.den_pos x)).2
  have hpartValue := scaled_ofRatio hrnum.ne' hpart
  rw [hratio] at hpartNear
  rw [hexponent] at hpartValue
  rw [hpartValue]
  generalize mantissa r.num.natAbs r.den x = n' at *
  have hlt : (n' : Rat) * 2 ^ x < n * 2 ^ x := by linarith
  have hsucc : n' + 1 ≤ n := by exact_mod_cast lt_of_mul_lt_mul_right hlt hpow.le
  have hsucc' : (n' : Rat) + 1 ≤ n := by exact_mod_cast hsucc
  have hstep := mul_le_mul_of_nonneg_right hsucc' hpow.le
  linarith

/-- A part of a rounded number that leaves out a unit of one is not above the number, even if the
number was rounded up and the part is rounded again. -/
theorem part_between {num den k : Nat} (hden : 0 < den)
    (hmultiple : (num / den : Rat) = k * 2 ^ minExponent) {d v : Binary64}
    (hround : ofRatio false num den = d) (hd : d.isFinite = true) (hv : v.IsDouble)
    (hnonneg : 0 ≤ v.toRat) (hle : v.toRat ≤ 1 - unitBelowOne) :
    Between 0 (num / den) (d.mul v) := by
  obtain ⟨m, e, rfl⟩ : ∃ m e, d = finite false m e := by
    cases d with
    | finite b m e =>
        obtain ⟨rfl, -⟩ := isCanonical_ofRatio hden hround
        exact ⟨m, e, rfl⟩
    | _ => cases hd
  have hdouble := isDouble_of_ofRatio hden hround
  have hd0 : 0 ≤ (finite false m e).toRat := scaled_nonneg m e
  have hproduct := mul_nonneg hd0 hnonneg
  have hleft : (finite false m e).toRat * v.toRat
      ≤ (finite false m e).toRat - (finite false m e).toRat * unitBelowOne := by
    rw [← mul_one_sub]
    exact mul_le_mul_of_nonneg_left hle hd0
  have hwithin := hdouble.mul_between hv isValue_zero hdouble.isValue hproduct
    (hleft.trans (sub_le_self _ (mul_nonneg hd0 unitBelowOne_pos.le)))
  refine ⟨hwithin.isDouble, hwithin.low, ?_⟩
  rcases le_or_gt (finite false m e).toRat (num / den) with hdown | hup
  · exact hwithin.high.trans hdown
  obtain ⟨hnum, hfull, hmin, hmax⟩ := full_of_rounded_up hden hmultiple hround hup
  rcases le_or_gt ((finite false m e).toRat * v.toRat) (2 ^ (exponent num den + 52)) with
    hsmall | hlarge
  · -- What is at most the least full mantissa stays so.
    have hpower : IsValue (2 ^ (exponent num den + 52)) :=
      ⟨leastFull, exponent num den, by decide, hmin, hmax,
        by rw [abs_of_pos (by positivity), leastFull_mul_two_zpow]⟩
    exact (hdouble.mul_between hv isValue_zero hpower hproduct hsmall).high.trans hfull
  · cases v with
    | finite b n f =>
        rw [mul_finite] at hwithin ⊢
        cases hpart : ofRatio (false ^^ b)
            ((finite false m e).toRat * (finite b n f).toRat).num.natAbs
            ((finite false m e).toRat * (finite b n f).toRat).den with
        | finite b' m' e' =>
            rw [hpart] at hwithin
            rw [← abs_of_nonneg hwithin.low, abs_toRat_finite]
            exact scaled_le_of_part (Nat.pos_of_ne_zero hnum) hden hround hlarge hleft hpart
        | _ =>
            rw [hpart] at hwithin
            exact hwithin.isDouble.elim
    | _ => exact hv.elim

end RetrievalTelemetry.Binary64
