/-
The order of doubles.

Comparison is false as soon as a NaN takes part, so it is no order on all doubles.  On the
others it is a linear one, except that the two zeros are equal.  `rank` is the place of a double on
the line of the rationals with the two infinities at its ends; the comparisons of doubles
that are no NaN are those of their ranks, and everything that the deadlines need follows
from the line.

A sum is a NaN only if one summand is, or if the summands are opposite infinities.
-/
import Mathlib.Data.Rat.Defs
import Mathlib.Algebra.Order.Ring.Rat
import Mathlib.Order.WithBot
import RetrievalTelemetry.Binary64.Basic

namespace RetrievalTelemetry.Binary64

/-- The place of a double among the rationals and the two infinities; a NaN has none of its own. -/
def rank : Binary64 → WithBot (WithTop Rat)
  | nan => ⊥
  | infinity true => ⊥
  | infinity false => ⊤
  | x@(finite ..) => ((x.toRat : WithTop Rat) : WithBot (WithTop Rat))

private theorem coe_lt_top (q : Rat) : ((q : WithTop Rat) : WithBot (WithTop Rat)) < ⊤ :=
  WithBot.coe_lt_coe.mpr (WithTop.coe_lt_top q)

theorem compare?_eq {x y : Binary64} (hx : x.isNaN = false) (hy : y.isNaN = false) :
    x.compare? y =
      some (if x.rank < y.rank then .lt else if y.rank < x.rank then .gt else .eq) := by
  cases x with
  | nan => simp [isNaN] at hx
  | infinity a =>
      cases y with
      | nan => simp [isNaN] at hy
      | infinity b => cases a <;> cases b <;> simp [compare?, rank]
      | finite b n f => cases a <;> simp [compare?, rank, coe_lt_top]
  | finite a m e =>
      cases y with
      | nan => simp [isNaN] at hy
      | infinity b => cases b <;> simp [compare?, rank]
      | finite b n f => simp [compare?, rank]

theorem not_isNaN_of_le {x y : Binary64} (h : x.le y = true) :
    x.isNaN = false ∧ y.isNaN = false := by
  cases x <;> cases y <;> simp_all [le, compare?, isNaN]

theorem le_iff {x y : Binary64} (hx : x.isNaN = false) (hy : y.isNaN = false) :
    x.le y = true ↔ x.rank ≤ y.rank := by
  rw [le, compare?_eq hx hy]
  rcases lt_trichotomy x.rank y.rank with h | h | h
  · simp [h, h.le]
  · simp [h]
  · simp [h, h.not_gt, h.not_ge]

theorem lt_iff {x y : Binary64} (hx : x.isNaN = false) (hy : y.isNaN = false) :
    x.lt y = true ↔ x.rank < y.rank := by
  rw [lt, compare?_eq hx hy]
  rcases lt_trichotomy x.rank y.rank with h | h | h
  · simp [h]
  · simp [h]
  · simp [h, h.not_gt]

theorem eq_iff {x y : Binary64} (hx : x.isNaN = false) (hy : y.isNaN = false) :
    x.eq y = true ↔ x.rank = y.rank := by
  rw [eq, compare?_eq hx hy]
  rcases lt_trichotomy x.rank y.rank with h | h | h
  · simp [h, h.ne]
  · simp [h]
  · simp [h, h.not_gt, h.ne']

/-! ### Sums that are numbers -/

theorem isNaN_ofRatio (negative : Bool) (num den : Nat) :
    (ofRatio negative num den).isNaN = false := by
  unfold ofRatio
  split
  · rfl
  · extract_lets e m
    generalize (if m = 2 * leastFull then (leastFull, e + 1) else (m, e)) = rounded
    obtain ⟨m', e'⟩ := rounded
    dsimp only
    split <;> rfl

/-- A sum is a NaN only for a reason. -/
theorem isNaN_add {x y : Binary64} :
    (x.add y).isNaN = true ↔
      x.isNaN = true ∨ y.isNaN = true ∨ ∃ b, x = infinity b ∧ y = infinity !b := by
  cases x with
  | nan => simp [add, isNaN]
  | infinity a =>
      cases y with
      | nan => simp [add, isNaN]
      | infinity b => cases a <;> cases b <;> simp [add, isNaN]
      | finite b n f => simp [add, isNaN]
  | finite a m e =>
      cases y with
      | nan => simp [add, isNaN]
      | infinity b => simp [add, isNaN]
      | finite b n f =>
          have hsum : ((finite a m e).add (finite b n f)).isNaN = false := by
            simp only [add]
            split
            · rfl
            · exact isNaN_ofRatio ..
          rw [hsum]
          simp [isNaN]

end RetrievalTelemetry.Binary64
