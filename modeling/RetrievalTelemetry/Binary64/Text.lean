/-
The written form of a double.

The digits are always the shortest ones that read back.  What differs from format to
format is a record of a few decisions: which exponents are written out in full, the
spelling of the numbers that are not finite, and whether a mantissa of one digit keeps
its point in front of an exponent.
-/
import RetrievalTelemetry.Binary64.Decimal
import RetrievalTelemetry.Text.DecimalDigit

namespace RetrievalTelemetry

/-- How doubles are written. -/
structure DoubleStyle where
  /-- The text of a NaN. -/
  nan : String
  /-- The text of infinity. -/
  infinity : String
  /-- The text of negative infinity. -/
  negativeInfinity : String
  /-- Whether a mantissa of one digit is followed by `.0` when an exponent follows. -/
  pointBeforeExponent : Bool := false
  /-- The least decimal exponent that is written without an exponent. -/
  leastPositional : Int := -4
  /-- The least decimal exponent above one that is written with an exponent. -/
  leastScientific : Int := 16

namespace DoubleStyle

/-- Words for the special numbers, as in messages. -/
def plain : DoubleStyle where
  nan := "nan"
  infinity := "inf"
  negativeInfinity := "-inf"

/-- The literals that extend JSON to all doubles. -/
def json : DoubleStyle where
  nan := "NaN"
  infinity := "Infinity"
  negativeInfinity := "-Infinity"

/-- The spellings of YAML. -/
def yaml : DoubleStyle where
  nan := ".nan"
  infinity := ".inf"
  negativeInfinity := "-.inf"
  pointBeforeExponent := true

/-- The decimal exponent of the first digit. -/
def order (d : Decimal) : Int := d.exponent + d.length - 1

/-- The digits with a point behind the first `whole` of them, filled up with zeros on both sides;
a whole number keeps one zero behind the point. -/
def positional (digits : String) (whole : Int) : String :=
  if whole ≤ 0 then "0." ++ String.ofList (List.replicate (-whole).toNat '0') ++ digits
  else
    let n := whole.toNat
    let all := digits.toList ++ List.replicate (n - digits.length) '0'
    let behind := all.drop n
    String.ofList (all.take n) ++ "." ++ (if behind.isEmpty then "0" else String.ofList behind)

/-- The exponent, with its sign and at least two digits. -/
def exponentText (k : Int) : String :=
  (if k < 0 then "e-" else "e+") ++ Text.padded 2 k.natAbs

/-- One digit, the others behind a point, and the exponent. -/
def scientific (style : DoubleStyle) (digits : String) (k : Int) : String :=
  let behind := digits.toList.drop 1
  String.ofList (digits.toList.take 1) ++
    (if behind.isEmpty then (if style.pointBeforeExponent then ".0" else "")
     else "." ++ String.ofList behind) ++ exponentText k

def render (style : DoubleStyle) : Binary64 → String
  | .nan => style.nan
  | .infinity negative => if negative then style.negativeInfinity else style.infinity
  | .finite negative m e =>
    let d := Binary64.shortest m e
    let digits := toString d.digits
    let k := if m = 0 then 0 else order d
    (if negative then "-" else "") ++
      (if style.leastPositional ≤ k ∧ k < style.leastScientific then positional digits (k + 1)
       else style.scientific digits k)

end DoubleStyle

end RetrievalTelemetry
