/-
Which samples have percentiles.

A percentile looks up the values on both sides of a position, which is the rounded product of the
fraction and the last rank of the sample.  The product of a fraction that is not too close to one
stays below the last rank, even if the rank itself was rounded up to be a double.  So both ranks are
in the sample, however long it is, as long as the last rank is a finite double at all.  If it is not,
there is no position to look at.
-/
import Mathlib.Data.Rat.Floor
import RetrievalTelemetry.Proofs.Binary64.Bound
import RetrievalTelemetry.Report.Percentile

namespace RetrievalTelemetry.Percentile

open Binary64 (scaled finite ofInt leastFull)

/-! ### Positions -/

/-- Whether a fraction is positive and leaves room for what rounding adds to a rank. -/
def isProper : Binary64 → Bool
  | .finite false m e => m ≠ 0 && scaled m e ≤ 31 / 32
  | _ => false

theorem isProper_common : common.all isProper = true := by decide +kernel

theorem exists_of_isProper {f : Binary64} (h : isProper f = true) :
    ∃ m e, f = finite false m e ∧ m ≠ 0 ∧ scaled m e ≤ 31 / 32 := by
  unfold isProper at h
  split at h
  · rename_i m e
    obtain ⟨hm, hle⟩ := (Bool.and_eq_true _ _).mp h
    exact ⟨m, e, rfl, of_decide_eq_true hm, of_decide_eq_true hle⟩
  · cases h

/-- The double of a positive rank has a full mantissa. -/
theorem full_of_ofInt {last : Nat} (hlast : 0 < last) {b : Bool} {m : Nat} {e : Int}
    (h : ofInt last = finite b m e) : b = false ∧ leastFull ≤ m := by
  have hone := Binary64.one_le_scaled_of_ofInt (Int.natCast_ne_zero.mpr hlast.ne') h
  have hneg : decide ((last : Int) < 0) = false := by simp
  unfold ofInt at h
  rw [hneg, Int.natAbs_natCast] at h
  obtain ⟨rfl, hcanonical⟩ := Binary64.isCanonical_ofRatio Nat.one_pos h
  refine ⟨rfl, ?_⟩
  rcases hcanonical.full with hfull | hmin
  · exact hfull
  · -- With the least exponent it would be less than one.
    have hsmall : scaled m e < 1 := by
      have he : e ≤ -53 := by
        rw [hmin]
        decide
      rw [Binary64.scaled_eq]
      calc (m : Rat) * 2 ^ e < 2 ^ (53 + e) := Binary64.mul_two_zpow_lt hcanonical.short e
        _ ≤ 2 ^ (0 : Int) := zpow_le_zpow_right₀ (by norm_num) (by omega)
        _ = 1 := zpow_zero _
    exact absurd hone (not_le.mpr hsmall)

/-- The fraction leaves out more than a unit in the last place of a full mantissa. -/
theorem mul_scaled_le {q : Rat} (hq : q ≤ 31 / 32) {m : Nat} {e : Int} (hfull : leastFull ≤ m) :
    q * scaled m e ≤ ((m - 1 : Nat) : Rat) * 2 ^ e := by
  have hleast : 32 ≤ leastFull := by decide
  have hpow : (0 : Rat) < 2 ^ e := by positivity
  have hpred : (31 / 32 : Rat) * m ≤ ((m - 1 : Nat) : Rat) := by
    have hm : (32 : Rat) ≤ m := by exact_mod_cast hleast.trans hfull
    rw [Nat.cast_sub (by omega), Nat.cast_one]
    linarith
  calc q * scaled m e ≤ 31 / 32 * scaled m e :=
        mul_le_mul_of_nonneg_right hq (Binary64.scaled_nonneg m e)
    _ = 31 / 32 * m * 2 ^ e := by rw [Binary64.scaled_eq, mul_assoc]
    _ ≤ ((m - 1 : Nat) : Rat) * 2 ^ e := mul_le_mul_of_nonneg_right hpred hpow.le

/-- In a sample of a single value, every position is the first one. -/
theorem mul_ofInt_zero (k : Nat) (d : Int) :
    (finite false k d).mul (ofInt 0) = Binary64.zero false := by
  have hzero : ofInt 0 = Binary64.zero false := rfl
  have hproduct : (finite false k d).toRat * (Binary64.zero false).toRat = 0 := by
    show scaled k d * scaled 0 Binary64.minExponent = 0
    rw [Binary64.scaled_eq 0, Nat.cast_zero, zero_mul, mul_zero]
  rw [hzero]
  show Binary64.ofRatio (false ^^ false)
    ((finite false k d).toRat * (Binary64.zero false).toRat).num.natAbs
    ((finite false k d).toRat * (Binary64.zero false).toRat).den = Binary64.zero false
  rw [hproduct]
  rfl

/-- The position of a proper fraction is a finite double that is not beyond the last rank. -/
theorem position_le {f : Binary64} (hf : isProper f = true) {last : Nat}
    (hlast : (ofInt last).isFinite = true) :
    ∃ m e, f.mul (ofInt last) = finite false m e ∧ scaled m e ≤ last := by
  obtain ⟨k, d, rfl, -, hk⟩ := exists_of_isProper hf
  rcases Nat.eq_zero_or_pos last with rfl | hpos
  · refine ⟨0, Binary64.minExponent, mul_ofInt_zero k d, ?_⟩
    rw [Binary64.scaled_eq, Nat.cast_zero, zero_mul]
  cases hdouble : ofInt last with
  | nan =>
      rw [hdouble] at hlast
      cases hlast
  | infinity b =>
      rw [hdouble] at hlast
      cases hlast
  | finite b m e =>
      obtain ⟨rfl, hfull⟩ := full_of_ofInt hpos hdouble
      have hneg : decide ((last : Int) < 0) = false := by simp
      have hratio : Binary64.ofRatio false last 1 = finite false m e := by
        rw [← hdouble, ofInt, hneg, Int.natAbs_natCast]
      obtain ⟨-, hcanonical⟩ := Binary64.isCanonical_ofRatio Nat.one_pos hratio
      have hmax := (Binary64.ofRatio_eq_finite hpos.ne' hratio).1
      have hshort : m - 1 < 2 * leastFull := lt_of_le_of_lt (Nat.sub_le m 1) hcanonical.short
      have hproduct : (finite false k d).toRat * (finite false m e).toRat
          ≤ ((m - 1 : Nat) : Rat) * 2 ^ e := mul_scaled_le hk hfull
      have habs : |(finite false k d).toRat * (finite false m e).toRat|
          = (finite false k d).toRat * (finite false m e).toRat :=
        abs_of_nonneg (mul_nonneg (Binary64.scaled_nonneg k d) (Binary64.scaled_nonneg m e))
      rw [← habs, ← Binary64.natAbs_num_div_den] at hproduct
      -- The product stays at or below the double in front of that of the last rank.
      obtain ⟨m', e', hmul, hle⟩ := Binary64.ofRatio_le false (Rat.den_pos _) hshort
        hcanonical.minExponent_le hmax hproduct
      have hbelow := Binary64.pred_mul_lt_of_ofRatio Nat.one_pos hratio hfull
      rw [Nat.cast_one, div_one] at hbelow
      exact ⟨m', e', hmul, hle.trans hbelow.le⟩

/-- A position that is not beyond the last rank has a whole part among the ranks. -/
theorem rank_le {m : Nat} {e : Int} {last : Nat} (h : scaled m e ≤ last) :
    ∃ lower : Nat, rank (finite false m e) = .ok (lower : Int) ∧ lower ≤ last := by
  have hnonneg := Binary64.scaled_nonneg m e
  have htruncate : (finite false m e).truncate? = some ⌊scaled m e⌋ := by
    have hnum : 0 ≤ (scaled m e).num := Rat.num_nonneg.mpr hnonneg
    show some ((scaled m e).num.tdiv (scaled m e).den) = _
    rw [Int.tdiv_eq_ediv_of_nonneg hnum, Rat.floor_def']
  obtain ⟨lower, hlower⟩ := Int.eq_ofNat_of_zero_le (Int.floor_nonneg.mpr hnonneg)
  refine ⟨lower, ?_, ?_⟩
  · unfold rank
    rw [htruncate, hlower]
  · have hfloor := Int.floor_le (scaled m e)
    rw [hlower] at hfloor
    have hle := hfloor.trans h
    exact_mod_cast hle

/-! ### Samples -/

variable {ordered sample : List Binary64} {f : Binary64}

theorem valueAt_ok (ordered : List Binary64) {i : Nat} (h : i < ordered.length) : ∃ x, valueAt ordered i = .ok x := by
  unfold valueAt
  have hneg : ¬((i : Int) < 0) := by omega
  simp only [if_neg hneg, Int.toNat_natCast, List.getElem?_eq_getElem h]
  exact ⟨_, rfl⟩

/-- The last rank of a sample as a double. -/
def lastRank (sample : List Binary64) : Binary64 := ofInt ((sample.length : Int) - 1)

/-- A proper fraction of a sample whose last rank is a double has a value. -/
theorem interpolate_ok (hne : ordered ≠ []) (hf : isProper f = true)
    (hlast : (lastRank ordered).isFinite = true) : ∃ x, interpolate ordered f = .ok x := by
  have hlength : 0 < ordered.length := List.length_pos_iff.mpr hne
  obtain ⟨last, hlen⟩ : ∃ last : Nat, ordered.length = last + 1 :=
    ⟨ordered.length - 1, by omega⟩
  have hcast : (ordered.length : Int) - 1 = (last : Nat) := by omega
  unfold lastRank at hlast
  rw [hcast] at hlast
  obtain ⟨m, e, hposition, hle⟩ := position_le hf hlast
  obtain ⟨lower, hlower, hbound⟩ := rank_le hle
  have hupper : min ((lower : Int) + 1) last = ((min (lower + 1) last : Nat) : Int) := by
    push_cast
    rfl
  obtain ⟨low, hlow⟩ := valueAt_ok ordered (i := lower) (by omega)
  obtain ⟨high, hhigh⟩ := valueAt_ok ordered (i := min (lower + 1) last) (by omega)
  unfold interpolate
  simp only [bind, Except.bind, hcast, hposition, hlower, hupper, hlow, hhigh]
  exact ⟨_, rfl⟩

/-- Without a double for the last rank there is no position. -/
theorem interpolate_tooLarge (hne : ordered ≠ []) (hf : isProper f = true)
    (hlast : (lastRank ordered).isFinite = false) :
    interpolate ordered f = .error .tooLarge := by
  have hlength : 0 < ordered.length := List.length_pos_iff.mpr hne
  obtain ⟨k, d, rfl, hk, -⟩ := exists_of_isProper hf
  have hinfinite : ∃ b, ofInt ((ordered.length : Int) - 1) = .infinity b := by
    unfold lastRank at hlast
    have hnumber := Binary64.isNaN_ofRatio (decide ((ordered.length : Int) - 1 < 0))
      ((ordered.length : Int) - 1).natAbs 1
    unfold ofInt at hlast ⊢
    generalize Binary64.ofRatio _ _ _ = x at hlast hnumber ⊢
    cases x with
    | nan => cases hnumber
    | infinity b => exact ⟨b, rfl⟩
    | finite b m e => cases hlast
  obtain ⟨b, hb⟩ := hinfinite
  have hposition : (finite false k d).mul (ofInt ((ordered.length : Int) - 1))
      = .infinity (false ^^ b) := by
    rw [hb]
    exact if_neg hk
  unfold interpolate
  simp only [bind, Except.bind, hposition]
  rfl

theorem length_sorted (sample : List Binary64) : (sorted sample).length = sample.length :=
  List.length_mergeSort _

/-- The usual percentiles of a sample can be told exactly if its last rank is a double. -/
theorem ofSample_common (sample : List Binary64) :
    (∃ values, ofSample sample common = .ok values) ∧ (lastRank sample).isFinite = true ∨
      ofSample sample common = .error .tooLarge ∧ (lastRank sample).isFinite = false := by
  unfold ofSample
  cases hempty : sample.isEmpty with
  | true =>
      obtain rfl := List.isEmpty_iff.mp hempty
      exact Or.inl ⟨⟨[], rfl⟩, by decide +kernel⟩
  | false =>
      have hne : sorted sample ≠ [] := by
        intro hnil
        have hlength := length_sorted sample
        rw [hnil] at hlength
        rw [List.length_eq_zero_iff.mp hlength.symm] at hempty
        cases hempty
      have hrank : lastRank (sorted sample) = lastRank sample := by
        unfold lastRank
        rw [length_sorted]
      have hproper : ∀ f ∈ common, isProper f = true := List.all_eq_true.mp isProper_common
      rw [if_neg Bool.false_ne_true]
      cases hlast : (lastRank sample).isFinite with
      | true =>
          refine Or.inl ⟨?_, rfl⟩
          rw [← hrank] at hlast
          generalize common = fractions at hproper
          induction fractions with
          | nil => exact ⟨[], rfl⟩
          | cons f rest ih =>
              obtain ⟨x, hx⟩ := interpolate_ok hne (hproper f List.mem_cons_self) hlast
              obtain ⟨xs, hxs⟩ := ih fun g hg => hproper g (List.mem_cons_of_mem f hg)
              exact ⟨x :: xs, by rw [List.mapM_cons, hx, hxs]; rfl⟩
      | false =>
          refine Or.inr ⟨?_, rfl⟩
          rw [← hrank] at hlast
          obtain ⟨f, rest, hcommon⟩ : ∃ f rest, common = f :: rest := ⟨_, _, rfl⟩
          have hfirst := interpolate_tooLarge hne
            (hproper f (hcommon ▸ List.mem_cons_self)) hlast
          rw [hcommon, List.mapM_cons, hfirst]
          rfl

end RetrievalTelemetry.Percentile
