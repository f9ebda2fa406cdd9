/-
Percentiles of a sample, interpolated between the two closest ranks.

A fraction of a sorted sample of `n + 1` values stands at the position `fraction · n`.  Between
two whole positions the value is on the straight line between the neighbours.  A position in
front of the first value is counted from the end of the sample, as far as that reaches; any
other position outside the sample has no value.
-/
import RetrievalTelemetry.Number

namespace RetrievalTelemetry.Percentile

/-- The sample in ascending order; equal values keep their order. -/
def sorted (sample : List Binary64) : List Binary64 :=
  sample.mergeSort fun a b => !(b.lt a)

/-- The value at a whole position, a negative one counted from the end. -/
def valueAt (ordered : List Binary64) (position : Int) : Except ArithmeticError Binary64 :=
  let index := if position < 0 then position + ordered.length else position
  match if index < 0 then none else ordered[index.toNat]? with
  | some x => .ok x
  | none => .error .outOfBounds

/-- The whole part of a position. -/
def rank (position : Binary64) : Except ArithmeticError Int :=
  match position.truncate? with
  | some n => .ok n
  | none => .error (if position.isNaN then .notANumber else .tooLarge)

/-- The value of a fraction of a sorted sample that is not empty. -/
def interpolate (ordered : List Binary64) (fraction : Binary64) : Except ArithmeticError Binary64 := do
  let last : Int := ordered.length - 1
  let position := fraction.mul (Binary64.ofInt last)
  let lower ← rank position
  let upper := min (lower + 1) last
  let weight := position.sub (Binary64.ofInt lower)
  let low ← valueAt ordered lower
  let high ← valueAt ordered upper
  .ok (low.add ((high.sub low).mul weight))

/-- The values of several fractions of a sample; an empty sample has none. -/
def ofSample (sample fractions : List Binary64) : Except ArithmeticError (List Binary64) :=
  if sample.isEmpty then .ok [] else fractions.mapM (interpolate (sorted sample))

/-- The median, and the values that nine in ten and nineteen in twenty do not exceed. -/
def common : List Binary64 :=
  [Binary64.ofRatio false 1 2, Binary64.ofRatio false 9 10, Binary64.ofRatio false 95 100]

end RetrievalTelemetry.Percentile
