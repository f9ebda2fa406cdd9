/-
Doubles with a chosen number of places.

Three forms: all digits written out, one digit in front of the point and an exponent, and the
shorter of the two.  Each rounds the exact value once, a half to the even neighbour, so that the
digits depend on nothing but the number and the places.
-/
import RetrievalTelemetry.Binary64.Text

namespace RetrievalTelemetry

/-- The forms of a number with places. -/
inductive PlacesForm where
  | fixed
  | scientific
  | general
deriving DecidableEq, Repr

namespace Binary64

/-- The numerator and denominator of `m · 2^e`. -/
def magnitude (m : Nat) (e : Int) : Nat × Nat :=
  if 0 ≤ e then (m * Nat.pow 2 e.toNat, 1) else (m, Nat.pow 2 (-e).toNat)

/-- `n` with a point in front of its last `places` digits; without places the point stays only if
`keepPoint` says so. -/
def withPoint (keepPoint : Bool) (places n : Nat) : String :=
  let digits := (Text.padded (places + 1) n).toList
  let whole := digits.length - places
  String.ofList (digits.take whole) ++
    (if places = 0 then (if keepPoint then "." else "") else "." ++ String.ofList (digits.drop whole))

/-- `num / den`, rounded to a number of places. -/
def fixedText (keepPoint : Bool) (places num den : Nat) : String :=
  withPoint keepPoint places (nearestEven (num * Nat.pow 10 places) den)

/-- `num / den` as `places + 1` digits and the power of ten of the first of them. -/
def leadingDigits (places num den : Nat) : Nat × Int :=
  if num = 0 then (0, 0)
  else
    let order := floorLog10 num den
    let unit := (Decimal.mk 1 (order - places)).ratio
    let digits := nearestEven (num * unit.2) (den * unit.1)
    -- rounding up may bring one more digit
    if digits = Nat.pow 10 (places + 1) then (Nat.pow 10 places, order + 1) else (digits, order)

/-- `num / den` with one digit in front of the point and an exponent. -/
def scientificText (keepPoint : Bool) (places num den : Nat) : String :=
  let (digits, order) := leadingDigits places num den
  withPoint keepPoint places digits ++ DoubleStyle.exponentText order

/-- The text without the zeros at its end, if it has a point, and without a bare point. -/
def dropZeros (text : String) : String :=
  if text.contains '.' then
    let rest := text.toList.reverse.dropWhile (· = '0')
    String.ofList (if rest.head? = some '.' then rest.drop 1 else rest).reverse
  else text

/-- `num / den` with a number of digits in all: written out where the first digit stands at most
four places behind the point and none of the digits in front of the units is missing. -/
def generalText (keepZeros : Bool) (places num den : Nat) : String :=
  let digits := max places 1
  let order := (leadingDigits (digits - 1) num den).2
  if -4 ≤ order ∧ order < digits then
    let text := fixedText keepZeros (digits - 1 - order).toNat num den
    if keepZeros then text else dropZeros text
  else
    let (first, order) := leadingDigits (digits - 1) num den
    let text := withPoint keepZeros (digits - 1) first
    (if keepZeros then text else dropZeros text) ++ DoubleStyle.exponentText order

/-- A double in a form with a number of places; `full` keeps a point and zeros that the form would
drop. -/
def placesText (form : PlacesForm) (full : Bool) (places : Nat) : Binary64 → String
  | nan => "nan"
  | infinity negative => if negative then "-inf" else "inf"
  | finite negative m e =>
    let (num, den) := magnitude m e
    (if negative then "-" else "") ++
      match form with
      | .fixed => fixedText full places num den
      | .scientific => scientificText full places num den
      | .general => generalText full places num den

end Binary64

end RetrievalTelemetry
