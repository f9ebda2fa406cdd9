/-
Numbers as they are counted and measured: whole numbers without bound, and doubles.

The two kinds stay apart, because a literal without fraction and exponent is a count
and every other literal a measurement; they compare by value.
-/
import RetrievalTelemetry.Binary64.Text

namespace RetrievalTelemetry

/-- A whole number or a double. -/
inductive Number where
  | int (value : Int)
  | double (value : Binary64)
deriving DecidableEq, Repr, Inhabited

/-- Why a calculation has no result. -/
inductive ArithmeticError where
  /-- A number is too large for a double, or an infinite one would have to be whole. -/
  | tooLarge
  /-- A NaN would have to be whole. -/
  | notANumber
  /-- A list has no element at a position. -/
  | outOfBounds
deriving DecidableEq, Repr

namespace Number

/-- The nearest double. -/
def toDouble : Number → Binary64
  | int n => Binary64.ofInt n
  | double x => x

/-- The nearest double, unless a whole number is too large for one. -/
def toDouble? : Number → Option Binary64
  | int n => let x := Binary64.ofInt n; if x.isFinite then some x else none
  | double x => some x

/-- The order of two numbers by value, if neither is a NaN. -/
def compare? : Number → Number → Option Ordering
  | int a, int b => some (compare a b)
  | double x, double y => x.compare? y
  | int a, double y =>
    match y with
    | .nan => none
    | .infinity negative => some (if negative then .gt else .lt)
    | .finite .. => some (compareRat a y.toRat)
  | double x, int b =>
    match x with
    | .nan => none
    | .infinity negative => some (if negative then .lt else .gt)
    | .finite .. => some (compareRat x.toRat b)
where
  /-- The order of two rational numbers. -/
  compareRat (p q : Rat) : Ordering := if p < q then .lt else if q < p then .gt else .eq

/-- Strictly less; false if either is a NaN. -/
def lt (a b : Number) : Bool := a.compare? b == some .lt

/-- Less or equal; false if either is a NaN. -/
def le (a b : Number) : Bool := a.compare? b == some .lt || a.compare? b == some .eq

/-- Equal by value. -/
def eq (a b : Number) : Bool := a.compare? b == some .eq

/-- The sum: whole numbers add exactly, any other pair as doubles, for which a whole number may be too
large. -/
def add : Number → Number → Except ArithmeticError Number
  | int a, int b => .ok (int (a + b))
  | a, b =>
    match a.toDouble?, b.toDouble? with
    | some x, some y => .ok (double (x.add y))
    | _, _ => .error .tooLarge

/-- The text of a number; a whole number has its digits alone. -/
def render (style : DoubleStyle) : Number → String
  | int n => toString n
  | double x => style.render x

end Number

/-- The count that a number stands for: a double loses its fraction, and one that is not finite
stands for none. -/
def Number.toCount? : Number → Option Int
  | .int n => some n
  | .double x => x.truncate?

end RetrievalTelemetry
