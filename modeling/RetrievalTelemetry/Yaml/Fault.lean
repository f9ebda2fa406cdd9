/-
Why a text cannot be read as a document.
-/
import RetrievalTelemetry.Text.Numeral
import RetrievalTelemetry.Yaml.Atom

namespace RetrievalTelemetry.Yaml

/-- Why a text cannot be read as a document. -/
inductive Fault where
  /-- It is no YAML, or something stands where it has no meaning. -/
  | malformed
  /-- The code of an escape is beyond the last character. -/
  | codeTooLarge
  /-- The code of an escape, or a number in base sixty, is too large to work with at all. -/
  | tooLarge
  /-- Its parts lie too deep in each other. -/
  | tooDeep
  | numeral (error : Text.NumeralError)
  /-- A number without any text. -/
  | emptyNumeral
  | notTruth
  | notTime
  /-- A date that has entries. -/
  | compoundTime
  | yearOutOfRange (year : Int)
  | monthOutOfRange
  | dayOutOfRange
  | hourOutOfRange
  | minuteOutOfRange
  | secondOutOfRange
  | offsetOutOfRange (minutes : Int)
deriving DecidableEq, Repr

namespace Fault

/-- The words for a value that is out of range or no number; other faults have none. -/
def message : Fault → String
  | codeTooLarge => "chr() arg not in range(0x110000)"
  | numeral error => error.message
  | yearOutOfRange year => "year " ++ toString year ++ " is out of range"
  | monthOutOfRange => "month must be in 1..12"
  | dayOutOfRange => "day is out of range for month"
  | hourOutOfRange => "hour must be in 0..23"
  | minuteOutOfRange => "minute must be in 0..59"
  | secondOutOfRange => "second must be in 0..59"
  | offsetOutOfRange minutes =>
    "offset must be a timedelta strictly between -timedelta(hours=24) and timedelta(hours=24), not " ++
      Atom.spanLiteral minutes ++ "."
  | malformed | tooLarge | tooDeep | emptyNumeral | notTruth | notTime | compoundTime => ""

/-- Whether a fault is foreseen where settings are loaded: no YAML at all, or a value that is out of range
or no number. -/
def isForeseen : Fault → Bool
  | tooLarge | tooDeep | emptyNumeral | notTruth | notTime | compoundTime => false
  | _ => true

end Fault

end RetrievalTelemetry.Yaml
