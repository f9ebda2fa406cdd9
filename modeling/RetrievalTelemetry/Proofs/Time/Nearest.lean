/-
Spans that are whole numbers of nanoseconds.

Such a span is kept to the microsecond, and on the way it is rounded twice: a thousandth of the
number is rounded to a double, and that to a whole number.  Up to two to the power of 53 the first step
changes nothing about the second.  A thousandth that lies half way between two whole numbers is a
double, so it stays there; any other is at least a thousandth away from half way, and the double is
nearer than that.  So the result is the nearest microsecond, however the number was given.
-/
import RetrievalTelemetry.Proofs.Binary64.Accuracy
import RetrievalTelemetry.Time.Duration

namespace RetrievalTelemetry

namespace Binary64

theorem thousandth_lt {n : Nat} (hn : n ≤ maxExact) : (n / 1000 : Rat) < 2 ^ (44 : Int) := by
  have hn' : (n : Rat) ≤ 2 ^ (53 : Nat) := by
    have htwo : maxExact = 2 ^ 53 := by decide
    rw [htwo] at hn
    exact_mod_cast hn
  calc (n / 1000 : Rat) ≤ 2 ^ (53 : Nat) / 1000 := by gcongr
    _ < 2 ^ (44 : Int) := by norm_num

theorem exponent_thousandth {num den n : Nat} (hden : 0 < den) (hnum : 0 < num) (hn : n ≤ maxExact)
    (h : (num / den : Rat) = n / 1000) : exponent num den ≤ -9 := by
  have hpow : (2 : Rat) ^ floorLog2 num den < 2 ^ (44 : Int) := by
    calc (2 : Rat) ^ floorLog2 num den ≤ num / den := (floorLog2_bounds hnum hden).1
      _ = n / 1000 := h
      _ < 2 ^ (44 : Int) := thousandth_lt hn
  have hlog : floorLog2 num den < 44 := (zpow_lt_zpow_iff_right₀ (by norm_num)).mp hpow
  unfold exponent minExponent
  omega

/-- A thousandth of a whole number lies half way between two whole numbers, or it is at least a
thousandth away from there. -/
theorem abs_thousandth_sub_le {n : Nat} (h : n % 1000 ≠ 500) :
    |(n / 1000 : Rat) - nearestEven n 1000| ≤ 499 / 1000 := by
  have hbounds := nearestEven_bounds n (show 0 < 1000 by decide)
  set k := nearestEven n 1000 with hk
  have hlow : (n : Rat) ≤ 1000 * k + 499 := by
    have hnat : n ≤ 1000 * k + 499 := by omega
    exact_mod_cast hnat
  have hhigh : (1000 * k : Rat) ≤ n + 499 := by
    have hnat : 1000 * k ≤ n + 499 := by omega
    exact_mod_cast hnat
  rw [abs_le]
  constructor <;> linarith

theorem nearest_thousandth (negative : Bool) {num den n : Nat} (hden : 0 < den) (hn : n ≤ maxExact)
    (h : (num / den : Rat) = n / 1000) :
    ∃ m e, ofRatio negative num den = finite negative m e ∧
      nearestEvenInt (scaled m e) = nearestEven n 1000 := by
  by_cases htie : n % 1000 = 500
  · -- Half way between two whole numbers there is a double, so nothing is lost.
    have hhalf : (num / den : Rat) = ((2 * (n / 1000) + 1 : Nat) : Rat) * 2 ^ (-1 : Int) := by
      have hsplit : (n : Rat) = ((1000 * (n / 1000) + 500 : Nat) : Rat) := by
        exact_mod_cast (by omega : n = 1000 * (n / 1000) + 500)
      rw [h, hsplit]
      push_cast
      ring
    have hshort : 2 * (n / 1000) + 1 < 2 * leastFull := by
      unfold maxExact at hn
      unfold leastFull
      omega
    obtain ⟨m, e, hround, hvalue⟩ :=
      ofRatio_exact negative hden hshort (by decide) (by decide) hhalf
    refine ⟨m, e, hround, ?_⟩
    rw [hvalue, h]
    exact nearestEvenInt_div n (show 0 < 1000 by decide)
  · rcases Nat.eq_zero_or_pos num with rfl | hnum
    · have hzero : n = 0 := by
        rw [Nat.cast_zero, zero_div, eq_comm, div_eq_zero_iff] at h
        simpa using h
      refine ⟨0, minExponent, rfl, ?_⟩
      rw [hzero, scaled_eq, Nat.cast_zero, zero_mul]
      rfl
    · have hexp := exponent_thousandth hden hnum hn h
      have hfinite : (num / den : Rat) < 2 ^ (1023 : Int) := by
        rw [h]
        exact (thousandth_lt hn).trans (zpow_lt_zpow_right₀ (by norm_num) (by norm_num))
      obtain ⟨m, e, hround⟩ := exists_finite_ofRatio negative hden hfinite
      refine ⟨m, e, hround, nearestEvenInt_eq_of_abs_lt (scaled_nonneg m e) ?_⟩
      have herror := abs_mantissa_sub_le num hden (exponent num den)
      rw [← scaled_ofRatio hnum.ne' hround, h] at herror
      have hunit : (2 : Rat) ^ exponent num den ≤ 2 ^ (-9 : Int) :=
        zpow_le_zpow_right₀ (by norm_num) hexp
      calc |scaled m e - nearestEven n 1000|
          ≤ |scaled m e - n / 1000| + |(n / 1000 : Rat) - nearestEven n 1000| := abs_sub_le _ _ _
        _ ≤ 2 ^ (-9 : Int) / 2 + 499 / 1000 :=
            add_le_add (herror.trans (div_le_div_of_nonneg_right hunit (by norm_num)))
              (abs_thousandth_sub_le htie)
        _ < 1 / 2 := by norm_num

end Binary64

namespace Duration

open Binary64 (maxExact ofRatio)

/-- The span of a whole number of nanoseconds: the nearest number of microseconds, and the even one of
two equally near ones. -/
def nearest (z : Int) : Duration := ⟨nearestEvenInt (z / 1000)⟩

/-- The opposite span. -/
def opposite (d : Duration) : Duration := ⟨-d.micros⟩

theorem nearest_neg (z : Int) : nearest (-z) = (nearest z).opposite := by
  unfold nearest opposite
  rw [Int.cast_neg, neg_div, nearestEvenInt_neg]

theorem nearest_natCast (n : Nat) : nearest n = ⟨nearestEven n 1000⟩ := by
  unfold nearest
  rw [Int.cast_natCast]
  exact congrArg Duration.mk (nearestEvenInt_div n (show 0 < 1000 by decide))

theorem nearest_zero : nearest 0 = zero := nearest_natCast 0

theorem nearest_sign (negative : Bool) (n : Nat) :
    nearest (if negative then -(n : Int) else n)
      = ⟨if negative then -(nearestEven n 1000 : Int) else nearestEven n 1000⟩ := by
  cases negative with
  | false => exact nearest_natCast n
  | true =>
      rw [if_pos rfl, if_pos rfl, nearest_neg, nearest_natCast]
      rfl

theorem inRange_nearest (negative : Bool) {n : Nat} (hn : n ≤ maxExact) :
    (nearest (if negative then -(n : Int) else n)).inRange = true := by
  have hle : nearestEven n 1000 ≤ n := nearestEven_le (by decide) (by omega)
  rw [nearest_sign]
  unfold maxExact at hn
  unfold inRange minMicros maxMicros
  rw [Bool.and_eq_true, decide_eq_true_eq, decide_eq_true_eq]
  cases negative
  · rw [if_neg Bool.false_ne_true]
    dsimp only
    omega
  · rw [if_pos rfl]
    dsimp only
    omega

/-- The span of a number of microseconds that is what a thousandth is rounded to. -/
theorem ofMicroseconds?_ofRatio (negative : Bool) (num : Nat) {den n : Nat} (hden : 0 < den)
    (hn : n ≤ maxExact) (h : (num / den : Rat) = n / 1000) :
    ofMicroseconds? (ofRatio negative num den)
      = some (nearest (if negative then -(n : Int) else n)) := by
  obtain ⟨m, e, hround, hnearest⟩ := Binary64.nearest_thousandth negative hden hn h
  have hmicros : Duration.mk (nearestEvenInt (Binary64.finite negative m e).toRat)
      = nearest (if negative then -(n : Int) else n) := by
    rw [nearest_sign]
    cases negative with
    | false => exact congrArg Duration.mk hnearest
    | true =>
        show Duration.mk (nearestEvenInt (-Binary64.scaled m e)) = _
        rw [nearestEvenInt_neg, hnearest]
        rfl
  rw [hround, ofMicroseconds?]
  show (if Duration.inRange (Duration.mk (nearestEvenInt (Binary64.finite negative m e).toRat)) = true
    then _ else _) = _
  rw [hmicros, if_pos (inRange_nearest negative hn)]

theorem ofNanoseconds?_int {z : Int} (hz : z.natAbs ≤ maxExact) :
    ofNanoseconds? (.int z) = some (nearest z) := by
  have hratio := ofMicroseconds?_ofRatio (z < 0) z.natAbs (show 0 < 1000 by decide) hz
    (by norm_num)
  have hsign : (if decide (z < 0) = true then -(z.natAbs : Int) else z.natAbs) = z := by
    simp only [decide_eq_true_eq]
    split <;> omega
  rwa [hsign] at hratio

/-- A double that is a whole number has the sign of that number, unless it is zero. -/
theorem sign_of_toRat_eq {negative : Bool} {m : Nat} {e : Int} {z : Int}
    (h : (Binary64.finite negative m e).toRat = z) :
    (if negative then -(z.natAbs : Int) else z.natAbs) = z := by
  have hnonneg := Binary64.scaled_nonneg m e
  cases negative with
  | false =>
      have hz : (0 : Rat) ≤ z := h ▸ hnonneg
      have hz' : 0 ≤ z := by exact_mod_cast hz
      rw [if_neg Bool.false_ne_true]
      omega
  | true =>
      have hz : (z : Rat) ≤ 0 := by
        rw [← h]
        exact neg_nonpos.mpr hnonneg
      have hz' : z ≤ 0 := by exact_mod_cast hz
      rw [if_pos rfl]
      omega

theorem ofNanoseconds?_double {x : Binary64} {z : Int} (hz : z.natAbs ≤ maxExact)
    (hx : x.toRat? = some (z : Rat)) : ofNanoseconds? (.double x) = some (nearest z) := by
  cases x with
  | nan => cases hx
  | infinity => cases hx
  | finite negative m e =>
      have hvalue : (Binary64.finite negative m e).toRat = z := Option.some.inj hx
      have hthousand := Binary64.isNat_ofInt (n := 1000) (by decide)
      have hratio := ofMicroseconds?_ofRatio negative ((z : Rat) / 1000).num.natAbs
        (Rat.den_pos ((z : Rat) / 1000)) hz (by
          rw [Binary64.natAbs_num_div_den, abs_div, Nat.cast_natAbs, Int.cast_abs]
          norm_num)
      rw [sign_of_toRat_eq hvalue] at hratio
      rw [ofNanoseconds?, ← hratio]
      refine congrArg ofMicroseconds? ((Binary64.div_of_isNat hthousand (by decide)).trans ?_)
      rw [hvalue]
      rfl

end Duration
end RetrievalTelemetry
