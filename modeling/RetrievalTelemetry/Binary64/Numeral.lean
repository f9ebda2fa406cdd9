/-
Decimal numerals: the digits, point and exponent that a double is written with.

A numeral has at least one digit, before or behind its point.  The point may end it, the
exponent may have a sign.  What stands in front of a numeral, and the words for the numbers
that are not finite, are not part of it.
-/
import RetrievalTelemetry.Binary64.Decimal
import RetrievalTelemetry.Text.DecimalDigit

namespace RetrievalTelemetry

namespace Text

/-- The leading ASCII digits and the rest. -/
def spanDigits (cs : List Char) : List Char × List Char :=
  (cs.takeWhile Char.isDigit, cs.dropWhile Char.isDigit)

/-- The sign in front, true for a minus, and the rest. -/
def splitSign : List Char → Option Bool × List Char
  | '+' :: rest => (some false, rest)
  | '-' :: rest => (some true, rest)
  | cs => (none, cs)

end Text

/-- A decimal numeral without its sign. -/
structure Numeral where
  whole : List Char
  /-- The digits behind the point, which may be none. -/
  fraction : Option (List Char)
  exponent : Option Int
deriving DecidableEq, Repr

namespace Numeral

/-- The number that the numeral denotes. -/
def decimal (n : Numeral) : Decimal :=
  let behind := n.fraction.getD []
  ⟨Text.decimalValue (n.whole ++ behind), n.exponent.getD 0 - behind.length⟩

/-- The exponent that a text is, if it is one. -/
def exponentOf? : List Char → Option (Option Int)
  | [] => some none
  | mark :: rest =>
    let (sign, digits) := Text.splitSign rest
    let size : Int := Text.decimalValue digits
    if (mark = 'e' || mark = 'E') && !digits.isEmpty && digits.all Char.isDigit then
      some (some (if sign = some true then -size else size))
    else none

/-- The numeral that a text is, if it is one. -/
def ofChars? (cs : List Char) : Option Numeral :=
  let (whole, rest) := Text.spanDigits cs
  let (fraction, rest) := match rest with
    | '.' :: rest => (some (Text.spanDigits rest).1, (Text.spanDigits rest).2)
    | rest => (none, rest)
  if whole.isEmpty && (fraction.getD []).isEmpty then none
  else (exponentOf? rest).map fun exponent => ⟨whole, fraction, exponent⟩

end Numeral

/-- The finite double that a numeral with an optional sign denotes. -/
def Binary64.ofChars? (cs : List Char) : Option Binary64 :=
  let (sign, body) := Text.splitSign cs
  (Numeral.ofChars? body).map fun n => Binary64.ofDecimal (sign.getD false) n.decimal

/-- The double that a text denotes: a numeral, or a word for a number that is not finite, with an
optional sign. -/
def Binary64.ofCharsOrWord? (cs : List Char) : Option Binary64 :=
  let (sign, body) := Text.splitSign cs
  let word := String.ofList (body.map Char.toLower)
  if word = "inf" || word = "infinity" then some (.infinity (sign.getD false))
  else if word = "nan" then some .nan
  else Binary64.ofChars? cs

end RetrievalTelemetry
