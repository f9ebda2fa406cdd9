/-
What can be wrong with a value that comes from outside, and where.

A problem has a cause and a path: the names of fields and the numbers of items that lead to
the value.  Its text is one line; the path comes first, its parts joined by points, unless it
is empty.
-/
import RetrievalTelemetry.Time.Duration

namespace RetrievalTelemetry

/-- Why a value is refused. -/
inductive Cause where
  | notJson
  | missing
  | notObject
  | notArray
  | notText
  | notUnicode
  | notUuidText
  | notUuid
  | notTimestamp
  | withoutOffset
  | notAmong (names : List String)
  | notInteger
  | fractional
  | notIntegerText
  | integerTooLong
  | notFinite
  | notBoolean
  | unclearBoolean
  | notNumber
  | notNumberText
  | notDuration
  | badDuration (error : DurationError)
  | below (bound : Int)
  | notAbove (bound : Int)
  | above (bound : Int)
  | providerMissing
  | unexpected
  | notSection (model : String)
  | notName
deriving DecidableEq, Repr

namespace Cause

/-- Names in single quotes, with commas between them and `or` before the last one. -/
def alternatives : List String → String
  | [] => ""
  | [a] => "'" ++ a ++ "'"
  | [a, b] => "'" ++ a ++ "' or '" ++ b ++ "'"
  | a :: rest => "'" ++ a ++ "', " ++ alternatives rest

def message : Cause → String
  | notJson => "Invalid JSON"
  | missing => "Field required"
  | notObject => "Input should be an object"
  | notArray => "Input should be a valid array"
  | notText => "Input should be a valid string"
  | notUnicode => "Input should be a valid string, unable to parse raw data as a unicode string"
  | notUuidText => "UUID input should be a string, bytes or UUID object"
  | notUuid => "Input should be a valid UUID"
  | notTimestamp => "Input should be a valid datetime"
  | withoutOffset => "Input should have timezone info"
  | notAmong names => "Input should be " ++ alternatives names
  | notInteger => "Input should be a valid integer"
  | fractional => "Input should be a valid integer, got a number with a fractional part"
  | notIntegerText => "Input should be a valid integer, unable to parse string as an integer"
  | integerTooLong => "Unable to parse input string as an integer, exceeded maximum size"
  | notFinite => "Input should be a finite number"
  | notBoolean => "Input should be a valid boolean"
  | unclearBoolean => "Input should be a valid boolean, unable to interpret input"
  | notNumber => "Input should be a valid number"
  | notNumberText => "Input should be a valid number, unable to parse string as a number"
  | notDuration => "Input should be a valid duration"
  | badDuration error => "Value error, " ++ error.message
  | below bound => "Input should be greater than or equal to " ++ toString bound
  | notAbove bound => "Input should be greater than " ++ toString bound
  | above bound => "Input should be less than or equal to " ++ toString bound
  | providerMissing => "Value error, property storageProviderId is required when success is true"
  | unexpected => "Extra inputs are not permitted"
  | notSection model => "Input should be a valid dictionary or instance of " ++ model
  | notName => "Keys should be strings"

end Cause

/-- A cause and the path to the value. -/
structure Problem where
  path : List String := []
  cause : Cause
deriving DecidableEq, Repr

namespace Problem

/-- The same problem, seen from one step further out. -/
def under (step : String) (p : Problem) : Problem := { p with path := step :: p.path }

def line (p : Problem) : String :=
  let place := String.intercalate "." p.path
  if place = "" then p.cause.message else place ++ ": " ++ p.cause.message

def text (problems : List Problem) : String :=
  String.intercalate "\n" (problems.map line)

end Problem

end RetrievalTelemetry
