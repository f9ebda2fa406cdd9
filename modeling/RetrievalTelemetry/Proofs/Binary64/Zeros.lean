/-
The two zeros.

Doubles with the same value are the same, the two zeros apart.  Which of the zeros takes part in a
sum or a product makes no difference to the result but, at most, the sign of a zero.  And a negative
zero does not come from nowhere: a sum of doubles is one only if both of its parts are.
-/
import RetrievalTelemetry.Proofs.Binary64.Between

namespace RetrievalTelemetry.Binary64

/-- The same number, whichever of the two zeros it is. -/
def SameNumber (x y : Binary64) : Prop := x = y ∨ ∃ a b, x = zero a ∧ y = zero b

namespace SameNumber

variable {x x' y y' z : Binary64}

theorem refl (x : Binary64) : SameNumber x x := Or.inl rfl

theorem trans (h : SameNumber x y) (h' : SameNumber y z) : SameNumber x z := by
  rcases h with rfl | ⟨a, b, rfl, rfl⟩
  · exact h'
  · rcases h' with rfl | ⟨c, d, -, rfl⟩
    · exact Or.inr ⟨a, b, rfl, rfl⟩
    · exact Or.inr ⟨a, d, rfl, rfl⟩

theorem neg (h : SameNumber x x') : SameNumber x.neg x'.neg := by
  rcases h with rfl | ⟨a, b, rfl, rfl⟩
  · exact refl _
  · exact Or.inr ⟨!a, !b, rfl, rfl⟩

end SameNumber

theorem add_symm (x y : Binary64) : x.add y = y.add x := by
  cases x with
  | nan => cases y <;> rfl
  | infinity a =>
      cases y with
      | infinity b => cases a <;> cases b <;> rfl
      | _ => rfl
  | finite a m e =>
      cases y with
      | finite b n f =>
          simp only [add_finite, and_comm, Bool.and_comm, add_comm (finite a m e).toRat]
      | _ => rfl

theorem zero_add_finite (a c : Bool) (n : Nat) (f : Int) :
    (zero a).add (finite c n f) = if n = 0 then zero (a && c) else ofRat (finite c n f).toRat := by
  rw [zero, add_finite, toRat_finite_zero, zero_add]
  simp only [true_and]

theorem zero_mul_finite (a c : Bool) (n : Nat) (f : Int) :
    (zero a).mul (finite c n f) = zero (a ^^ c) := by
  unfold zero
  rw [mul_finite, toRat_finite_zero, zero_mul]
  rfl

namespace SameNumber

variable {x x' y y' : Binary64}

theorem add_right (h : SameNumber x x') (y : Binary64) : SameNumber (x.add y) (x'.add y) := by
  rcases h with rfl | ⟨a, b, rfl, rfl⟩
  · exact refl _
  · cases y with
    | finite c n f =>
        rw [zero_add_finite, zero_add_finite]
        split
        · exact Or.inr ⟨_, _, rfl, rfl⟩
        · exact refl _
    | _ => exact refl _

theorem add (h : SameNumber x x') (h' : SameNumber y y') : SameNumber (x.add y) (x'.add y') := by
  refine (h.add_right y).trans ?_
  rw [add_symm x' y, add_symm x' y']
  exact h'.add_right x'

theorem sub (h : SameNumber x x') (h' : SameNumber y y') : SameNumber (x.sub y) (x'.sub y') :=
  h.add h'.neg

theorem mul_right (h : SameNumber x x') (y : Binary64) : SameNumber (x.mul y) (x'.mul y) := by
  rcases h with rfl | ⟨a, b, rfl, rfl⟩
  · exact refl _
  · cases y with
    | finite c n f =>
        rw [zero_mul_finite, zero_mul_finite]
        exact Or.inr ⟨_, _, rfl, rfl⟩
    | _ => exact refl _

end SameNumber

/-! ### Where a negative zero comes from -/

variable {x y : Binary64}

/-- A double without a value is a zero. -/
theorem IsDouble.eq_zero (hx : x.IsDouble) (h : x.toRat = 0) : x = zero x.isNegative := by
  cases x with
  | finite b m e =>
      obtain ⟨hcanonical, -⟩ := hx
      rw [← abs_eq_zero, abs_toRat_finite, scaled_eq_zero_iff] at h
      subst h
      obtain rfl : e = minExponent := hcanonical.full.resolve_left (by decide)
      rfl
  | _ => exact hx.elim

/-- Doubles of one value are the same number. -/
theorem IsDouble.sameNumber (hx : x.IsDouble) (hy : y.IsDouble) (h : x.toRat = y.toRat) :
    SameNumber x y := by
  by_cases hzero : x.toRat = 0
  · exact Or.inr ⟨_, _, hx.eq_zero hzero, hy.eq_zero (h ▸ hzero)⟩
  · cases x with
    | finite a m e =>
        cases y with
        | finite b n f =>
            have hm : m ≠ 0 := fun hm => hzero (by rw [hm, toRat_finite_zero])
            have hn : n ≠ 0 := fun hn => hzero (by rw [h, hn, toRat_finite_zero])
            exact Or.inl (IsPlain.eq_of_toRat_eq ⟨hx.1, fun _ => hm⟩ ⟨hy.1, fun _ => hn⟩ h)
        | _ => exact hy.elim
    | _ => exact hx.elim

theorem isNegative_ofRatio (negative : Bool) {num den : Nat} (hden : 0 < den) :
    (ofRatio negative num den).isNegative = negative := by
  rcases ofRatio_cases negative num hden with h | ⟨m, e, h, -⟩ <;> rw [h] <;> rfl

theorem isNegative_ofInt (n : Nat) : (ofInt n).isNegative = false :=
  (isNegative_ofRatio _ Nat.one_pos).trans (decide_eq_false (by omega))

theorem isNegative_ofRat (q : Rat) : (ofRat q).isNegative = decide (q < 0) :=
  isNegative_ofRatio _ q.den_pos

/-- The sign of a product. -/
theorem isNegative_mul (hx : x.isFinite = true) (hy : y.isFinite = true) :
    (x.mul y).isNegative = (x.isNegative ^^ y.isNegative) := by
  cases x with
  | finite a m e =>
      cases y with
      | finite b n f => exact isNegative_ofRatio _ (Rat.den_pos _)
      | _ => cases hy
  | _ => cases hx

/-- A number less one that is not greater has no sign, unless both are zeros with the wrong signs. -/
theorem IsDouble.isNegative_sub (hx : x.IsDouble) (hy : y.IsDouble) (h : y.toRat ≤ x.toRat)
    (hsign : x.isNegative = false ∨ y.isNegative = true) : (x.sub y).isNegative = false := by
  have hnonneg : ¬ x.toRat + y.neg.toRat < 0 := by
    rw [toRat_neg]
    linarith
  cases x with
  | finite a m e =>
      cases y with
      | finite b n f =>
          show ((finite a m e).add (finite (!b) n f)).isNegative = false
          rw [add_finite]
          split
          · rcases hsign with h | h
            · obtain rfl : a = false := h
              rfl
            · obtain rfl : b = true := h
              exact Bool.and_false a
          · rw [isNegative_ofRat]
            exact decide_eq_false hnonneg
      | _ => exact hy.elim
  | _ => exact hx.elim

/-- A multiple of the least value is not rounded to zero. -/
theorem ofRat_ne_zero {q : Rat} {k : Int} (hq : q ≠ 0) (hmultiple : q = k * 2 ^ minExponent)
    (b : Bool) : ofRat q ≠ zero b := by
  intro h
  have hpos : (0 : Rat) < 2 ^ minExponent := by positivity
  have hk : k ≠ 0 := by
    rintro rfl
    exact hq (by rw [hmultiple, Int.cast_zero, zero_mul])
  have habs : (1 : Rat) ≤ |(k : Rat)| := by exact_mod_cast Int.one_le_abs hk
  have hleast : ((1 : Nat) * 2 ^ minExponent : Rat) ≤ q.num.natAbs / q.den := by
    rw [natAbs_num_div_den, hmultiple, abs_mul, abs_of_pos hpos, Nat.cast_one]
    exact mul_le_mul_of_nonneg_right habs hpos.le
  have hle := le_scaled_of_ofRatio q.den_pos (by decide) (Int.le_refl _) hleast h
  rw [scaled_eq 0, Nat.cast_zero, Nat.cast_one, zero_mul, one_mul] at hle
  exact absurd hpos (not_lt.mpr hle)

/-- A sum of doubles is the negative zero only if both of them are. -/
theorem IsDouble.eq_zero_of_add (hx : x.IsDouble) (hy : y.IsDouble) (h : x.add y = zero true) :
    x = zero true ∧ y = zero true := by
  obtain ⟨k, hk⟩ := hx.exists_multiple
  obtain ⟨l, hl⟩ := hy.exists_multiple
  cases x with
  | finite a m e =>
      cases y with
      | finite b n f =>
          rw [add_finite] at h
          split at h
          · rename_i hzero
            obtain ⟨rfl, rfl⟩ := hzero
            have hsigns : (a && b) = true := congrArg isNegative h
            obtain ⟨rfl, rfl⟩ := (Bool.and_eq_true _ _).mp hsigns
            exact ⟨hx.eq_zero (toRat_finite_zero ..), hy.eq_zero (toRat_finite_zero ..)⟩
          · have hsign := congrArg isNegative h
            rw [isNegative_ofRat] at hsign
            have hsum : (finite a m e).toRat + (finite b n f).toRat
                = ((k + l : Int) : Rat) * 2 ^ minExponent := by
              rw [hk, hl, Int.cast_add, add_mul]
            exact absurd h (ofRat_ne_zero (of_decide_eq_true hsign).ne hsum true)
      | _ => exact hy.elim
  | _ => exact hx.elim

end RetrievalTelemetry.Binary64
