/-
When a transfer has a rate.

The rate is a quotient of doubles.  A span of time that is longer than nothing is a positive
double, since a microsecond is far above the least one, so there is always a quotient; but
it may be infinite, and so may be the double of the size.  Both are out of the question for a size
below `2 ^ 1002` bytes: a microsecond is more than `2 ^ (-20)` seconds.
-/
import RetrievalTelemetry.Metering.Event
import RetrievalTelemetry.Proofs.Binary64.Range

namespace RetrievalTelemetry

namespace Binary64

theorem zero_lt_finite (negative : Bool) (m : Nat) (e : Int) :
    (zero false).lt (finite negative m e) = decide (0 < (finite negative m e).toRat) := by
  have hzero : (zero false).toRat = 0 := by decide +kernel
  show ((some _ : Option Ordering) == some .lt) = _
  change (some (if (zero false).toRat < _ then Ordering.lt else _) == some Ordering.lt) = _
  rw [hzero]
  by_cases h : 0 < (finite negative m e).toRat
  · simp [h]
  · rw [if_neg h]
    split <;> simp [h]

theorem truncate?_isSome {x : Binary64} (h : x.isFinite = true) : ∃ n, x.truncate? = some n := by
  unfold truncate? toRat?
  rw [if_pos h]
  exact ⟨_, rfl⟩

/-- The double of a whole number that is not enormous is not enormous. -/
theorem ofInt_bounded {n : Int} (h : n.natAbs < 2 ^ 1002) :
    ∃ negative m e, ofInt n = finite negative m e ∧ scaled m e ≤ 2 ^ (1002 : Int) := by
  have hsize : ((n.natAbs : Rat) / (1 : Nat)) ≤ 2 ^ (1002 : Int) := by
    rw [Nat.cast_one, div_one]
    exact_mod_cast h.le
  have hfinite : (ofInt n).isFinite = true := by
    refine isFinite_ofRatio (n < 0) Nat.one_pos (hsize.trans_lt ?_)
    exact zpow_lt_zpow_right₀ (by norm_num) (by norm_num)
  rcases ofRatio_cases (n < 0) n.natAbs Nat.one_pos with hinf | ⟨m, e, heq, hnear⟩
  · rw [ofInt, hinf] at hfinite
    cases hfinite
  · exact ⟨_, m, e, heq, (hnear 1002 (by decide)).1 hsize⟩

/-- A quotient of doubles is finite if it is not too large. -/
theorem isFinite_div_finite (a : Bool) (m : Nat) (e : Int) {n : Nat} {f : Int} (hn : n ≠ 0)
    (h : scaled m e / scaled n f < 2 ^ (1023 : Int)) :
    ((finite a m e).div (finite false n f)).isFinite = true := by
  unfold div
  dsimp only
  rw [if_neg hn]
  refine isFinite_ofRatio _ (Rat.den_pos _) ?_
  rw [natAbs_num_div_den, abs_div, abs_toRat_finite, abs_toRat_finite]
  exact h

end Binary64

namespace Duration

/-- The double of a span that is longer than nothing is at least a microsecond. -/
theorem toSeconds_of_pos {d : Duration} (h : 0 < d.micros) :
    d.toSeconds = .infinity false ∨
      ∃ m e, d.toSeconds = .finite false m e ∧ (2 : Rat) ^ (-20 : Int) ≤ Binary64.scaled m e := by
  have hneg : decide (d.micros < 0) = false := by simpa using h.le
  unfold toSeconds
  rw [hneg]
  rcases Binary64.ofRatio_cases false d.micros.natAbs (show 0 < 1000000 by decide) with
    hinf | ⟨m, e, hfinite, hnear⟩
  · exact Or.inl hinf
  · refine Or.inr ⟨m, e, hfinite, (hnear (-20) (by decide)).2 ?_⟩
    have hone : (1 : Rat) ≤ d.micros.natAbs := by
      have : 1 ≤ d.micros.natAbs := by omega
      exact_mod_cast this
    calc (2 : Rat) ^ (-20 : Int) ≤ 1 / 1000000 := by norm_num
      _ ≤ d.micros.natAbs / 1000000 := by gcongr
      _ = _ := by norm_num

/-- A span has a positive number of seconds exactly if it is longer than nothing. -/
theorem zero_lt_toSeconds (d : Duration) :
    (Binary64.zero false).lt d.toSeconds = decide (0 < d.micros) := by
  by_cases h : 0 < d.micros
  · rw [decide_eq_true h]
    rcases toSeconds_of_pos h with hinf | ⟨m, e, hfinite, hlow⟩
    · rw [hinf]
      rfl
    · have hpos : (0 : Rat) < 2 ^ (-20 : Int) := by norm_num
      rw [hfinite, Binary64.zero_lt_finite]
      exact decide_eq_true (hpos.trans_le hlow)
  · rw [decide_eq_false h]
    rcases (Int.not_lt.mp h).lt_or_eq with hneg | hzero
    · unfold toSeconds
      rw [decide_eq_true hneg]
      rcases Binary64.ofRatio_cases true d.micros.natAbs (show 0 < 1000000 by decide) with
        hinf | ⟨m, e, hfinite, -⟩
      · rw [hinf]
        rfl
      · have hnonneg : 0 ≤ Binary64.scaled m e := by
          rw [Binary64.scaled_eq]
          positivity
        rw [hfinite, Binary64.zero_lt_finite]
        exact decide_eq_false (by simpa [Binary64.toRat] using hnonneg)
    · unfold toSeconds
      rw [hzero]
      decide +kernel

end Duration

namespace Metering

/-- A span of time is longer than nothing if it ends later than it begins. -/
theorem zero_lt_since (time first : Timestamp) :
    (Binary64.zero false).lt (time.since first).toSeconds = first.isBefore time := by
  rw [Duration.zero_lt_toSeconds]
  simp [Timestamp.since, Timestamp.isBefore]

/-- A size that is not enormous has a rate, however short the transfer was. -/
theorem transferRate_ok {bytes : Int} (hsize : bytes.natAbs < 2 ^ 1002) {span : Duration}
    (hspan : 0 < span.micros) : ∃ rate, transferRate bytes span.toSeconds = .ok rate := by
  obtain ⟨a, m, e, hdouble, hsmall⟩ := Binary64.ofInt_bounded hsize
  have hsome : (Number.int bytes).toDouble? = some (.finite a m e) := by
    unfold Number.toDouble?
    dsimp only
    rw [hdouble]
    rfl
  have hquotient : ((Binary64.finite a m e).div span.toSeconds).isFinite = true := by
    rcases Duration.toSeconds_of_pos hspan with hinf | ⟨n, f, hfinite, hlow⟩
    · rw [hinf]
      rfl
    · have hpos : (0 : Rat) < Binary64.scaled n f :=
        lt_of_lt_of_le (by norm_num) hlow
      have hn : n ≠ 0 := by
        rintro rfl
        simp [Binary64.scaled_eq] at hpos
      rw [hfinite]
      refine Binary64.isFinite_div_finite a m e hn ?_
      rw [div_lt_iff₀ hpos]
      calc Binary64.scaled m e ≤ 2 ^ (1002 : Int) := hsmall
        _ < 2 ^ (1003 : Int) := zpow_lt_zpow_right₀ (by norm_num) (by norm_num)
        _ = 2 ^ (1023 : Int) * 2 ^ (-20 : Int) := by
            rw [← zpow_add₀ (by norm_num)]
            norm_num
        _ ≤ 2 ^ (1023 : Int) * Binary64.scaled n f := by gcongr
  obtain ⟨rate, hrate⟩ := Binary64.truncate?_isSome hquotient
  unfold transferRate
  rw [hsome]
  dsimp only
  rw [hrate]
  exact ⟨rate, rfl⟩

end Metering

end RetrievalTelemetry
