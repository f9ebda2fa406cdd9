/-
Nothing is found by searching and giving back that is not there at once.

The digits of a number are never given back for good: what would then follow is a digit, and neither
a point nor a unit is one.  Nor is a point, for no unit begins with one.  So the part at the front
of a text is what a reader finds that takes all digits and goes on; and as parts have to follow
each other, the search for further ones may stop where this reader stops.
-/
import Mathlib.Data.List.TakeWhile
import RetrievalTelemetry.Time.DurationText

namespace RetrievalTelemetry.Duration

/-! ### A reader that never goes back -/

/-- The leading decimal digits and the rest. -/
def spanDigits (cs : List Char) : List Char × List Char :=
  (cs.takeWhile Text.isDecimalDigit, cs.dropWhile Text.isDecimalDigit)

/-- A number off the front of a text: digits, a point if there is one, and the digits behind it. -/
def takeNumber (cs : List Char) : Option ((List Char × List Char) × List Char) :=
  let (whole, rest) := spanDigits cs
  match rest with
  | '.' :: behind =>
    let (fraction, rest) := spanDigits behind
    if whole ++ fraction = [] then none else some ((whole, fraction), rest)
  | rest => if whole = [] then none else some ((whole, []), rest)

/-- One part off the front of a text. -/
def takePart (cs : List Char) : Option (DurationPart × List Char) :=
  match takeNumber cs with
  | none => none
  | some ((whole, fraction), rest) => withUnit whole fraction rest

theorem takeNumber_of_point {cs whole behind : List Char}
    (h : spanDigits cs = (whole, '.' :: behind)) :
    takeNumber cs =
      if whole ++ (spanDigits behind).1 = [] then none
      else some ((whole, (spanDigits behind).1), (spanDigits behind).2) := by
  simp only [takeNumber, h]

theorem takeNumber_of_ne_point {cs whole rest : List Char} (h : spanDigits cs = (whole, rest))
    (hpoint : rest.head? ≠ some '.') :
    takeNumber cs = if whole = [] then none else some ((whole, []), rest) := by
  unfold takeNumber
  rw [h]
  dsimp only
  split
  · exact absurd rfl hpoint
  · rfl

theorem eq_append_of_spanDigits {cs ds rest : List Char} (h : spanDigits cs = (ds, rest)) :
    cs = ds ++ rest ∧ ∀ c ∈ ds, Text.isDecimalDigit c = true := by
  cases h
  exact ⟨List.takeWhile_append_dropWhile.symm, fun c hc => List.mem_takeWhile_imp hc⟩

/-! ### Digits -/

theorem not_isDecimalDigit_point : Text.isDecimalDigit '.' = false := by decide

/-- A reader that finds nothing in front of a digit. -/
def NotBeforeDigit {α : Type} (next : List Char → List Char → Option α) : Prop :=
  ∀ {c : Char} (taken cs : List Char), Text.isDecimalDigit c = true → next taken (c :: cs) = none

theorem spanDigits_cons_of_digit {c : Char} (cs : List Char) (h : Text.isDecimalDigit c = true) :
    spanDigits (c :: cs) = (c :: (spanDigits cs).1, (spanDigits cs).2) := by
  unfold spanDigits
  rw [List.takeWhile_cons_of_pos h, List.dropWhile_cons_of_pos h]

theorem spanDigits_cons_of_not_digit {c : Char} (cs : List Char)
    (h : Text.isDecimalDigit c = false) : spanDigits (c :: cs) = ([], c :: cs) := by
  have hc : ¬Text.isDecimalDigit c = true := by simp [h]
  unfold spanDigits
  rw [List.takeWhile_cons_of_neg hc, List.dropWhile_cons_of_neg hc]

/-- Digits that are given back are of no use to what follows. -/
theorem digitsThen_eq {α : Type} {next : List Char → List Char → Option α}
    (h : NotBeforeDigit next) (taken cs : List Char) :
    digitsThen next taken cs = next (taken.reverse ++ (spanDigits cs).1) (spanDigits cs).2 := by
  induction cs generalizing taken with
  | nil =>
      show next taken.reverse [] = next (taken.reverse ++ []) []
      rw [List.append_nil]
  | cons c cs ih =>
      unfold digitsThen
      cases hc : Text.isDecimalDigit c with
      | true =>
          -- Giving `c` back leaves it in front of what follows.
          rw [if_pos rfl, ih, h _ _ hc, spanDigits_cons_of_digit cs hc, List.reverse_cons,
            List.append_assoc, List.singleton_append]
          dsimp only
          cases next (taken.reverse ++ c :: (spanDigits cs).1) (spanDigits cs).2 <;> rfl
      | false =>
          rw [if_neg Bool.false_ne_true, spanDigits_cons_of_not_digit cs hc, List.append_nil]

theorem someDigitsThen_eq {α : Type} {next : List Char → List Char → Option α}
    (h : NotBeforeDigit next) (cs : List Char) :
    someDigitsThen next cs =
      if (spanDigits cs).1 = [] then none else next (spanDigits cs).1 (spanDigits cs).2 := by
  cases cs with
  | nil => rfl
  | cons c cs =>
      unfold someDigitsThen
      dsimp only
      cases hc : Text.isDecimalDigit c with
      | true =>
          rw [if_pos rfl, digitsThen_eq h, spanDigits_cons_of_digit cs hc,
            if_neg (List.cons_ne_nil _ _)]
          rfl
      | false =>
          rw [if_neg Bool.false_ne_true, spanDigits_cons_of_not_digit cs hc, if_pos rfl]

/-! ### Units -/

/-- No unit begins with a digit or a point. -/
theorem takeUnit_cons_eq_none {c : Char} (cs : List Char)
    (h : Text.isDecimalDigit c = true ∨ c = '.') : takeUnit (c :: cs) = none := by
  unfold takeUnit
  split
  case h_9 => rfl
  all_goals
    rename_i heq
    obtain ⟨rfl, -⟩ := List.cons.inj heq
    exact absurd h (by decide)

theorem withUnit_cons_eq_none (whole fraction : List Char) {c : Char} (cs : List Char)
    (h : Text.isDecimalDigit c = true ∨ c = '.') : withUnit whole fraction (c :: cs) = none := by
  unfold withUnit
  rw [takeUnit_cons_eq_none cs h]
  rfl

theorem notBeforeDigit_withUnit (whole : List Char) : NotBeforeDigit (withUnit whole) :=
  fun fraction cs hc => withUnit_cons_eq_none whole fraction cs (Or.inl hc)

theorem behindWhole_point (whole cs : List Char) :
    behindWhole whole ('.' :: cs) = withUnit whole (spanDigits cs).1 (spanDigits cs).2 := by
  simp only [behindWhole]
  rw [withUnit_cons_eq_none whole [] cs (Or.inr rfl), Option.or_none,
    digitsThen_eq (notBeforeDigit_withUnit whole)]
  rfl

theorem behindWhole_of_ne_point (whole : List Char) {cs : List Char} (h : cs.head? ≠ some '.') :
    behindWhole whole cs = withUnit whole [] cs := by
  unfold behindWhole
  dsimp only
  split
  · exact absurd rfl h
  · exact Option.none_or

theorem notBeforeDigit_behindWhole : NotBeforeDigit behindWhole := by
  intro c whole cs hc
  have hne : (c :: cs).head? ≠ some '.' := by
    rintro ⟨⟩
    exact absurd hc (by decide)
  rw [behindWhole_of_ne_point whole hne]
  exact withUnit_cons_eq_none whole [] cs (Or.inl hc)

/-! ### Parts -/

/-- The part at the front is the one that the reader finds that takes all digits. -/
theorem partAt_eq_takePart (cs : List Char) : partAt cs = takePart cs := by
  simp only [partAt, takePart]
  split
  · rename_i behind
    have hspan := spanDigits_cons_of_not_digit behind not_isDecimalDigit_point
    rw [someDigitsThen_eq notBeforeDigit_behindWhole, hspan, if_pos rfl, Option.none_or,
      someDigitsThen_eq (notBeforeDigit_withUnit []), takeNumber_of_point hspan, List.nil_append]
    split <;> rfl
  · rename_i hfront
    rw [someDigitsThen_eq notBeforeDigit_behindWhole, Option.or_none]
    cases hspan : spanDigits cs with
    | mk whole rest =>
        dsimp only
        by_cases hpoint : rest.head? = some '.'
        · obtain ⟨behind, rfl⟩ := List.head?_eq_some_iff.mp hpoint
          have hwhole : whole ≠ [] := by
            rintro rfl
            exact hfront behind (eq_append_of_spanDigits hspan).1
          rw [takeNumber_of_point hspan, if_neg hwhole,
            if_neg fun hnil => hwhole (List.append_eq_nil_iff.mp hnil).1, behindWhole_point]
        · rw [takeNumber_of_ne_point hspan hpoint, behindWhole_of_ne_point whole hpoint]
          split <;> rfl

/-- The search goes on behind a part that begins at once. -/
theorem scan_of_takePart {cs rest : List Char} {part : DurationPart}
    (h : takePart cs = some (part, rest)) (fuel : Nat) :
    scan (fuel + 1) cs = (part :: (scan fuel rest).1, (scan fuel rest).2) := by
  cases cs with
  | nil => cases h
  | cons c cs =>
      have hnext : nextPart (c :: cs) = some (0, part, rest) := by
        unfold nextPart
        rw [partAt_eq_takePart, h]
      simp only [scan, hnext]

/-- A part that begins later does not count. -/
theorem scan_of_takePart_eq_none {cs : List Char} (h : takePart cs = none) (fuel : Nat) :
    scan fuel cs = ([], cs) := by
  cases fuel with
  | zero => rfl
  | succ fuel =>
      cases cs with
      | nil => rfl
      | cons c cs =>
          have hnext : nextPart (c :: cs)
              = (nextPart cs).map fun found => (found.1 + 1, found.2) := by
            rw [nextPart, partAt_eq_takePart, h]
          rw [scan, hnext]
          cases nextPart cs <;> rfl

end RetrievalTelemetry.Duration
