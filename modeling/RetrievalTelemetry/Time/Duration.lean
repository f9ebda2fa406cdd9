/-
Spans of time, to the microsecond.

A span that comes from outside is bounded: it is less than a thousand million days in
either direction.  Differences of timestamps stay far inside these bounds.
-/
import RetrievalTelemetry.Number
import RetrievalTelemetry.Text.Quoted

namespace RetrievalTelemetry

/-- A span of time in microseconds. -/
structure Duration where
  micros : Int
deriving DecidableEq, Repr, Inhabited

/-- Why something is no duration. -/
inductive DurationError where
  /-- The text is not in the grammar of durations. -/
  | malformed (text : String)
  /-- The text denotes a span outside the bounds. -/
  | textOutOfRange (text : String)
  /-- The number of nanoseconds is outside the bounds. -/
  | numberOutOfRange (value : Number)
  /-- The number of nanoseconds is not whole. -/
  | notWhole (value : Binary64)
  /-- A truth value was given. -/
  | truthValue
deriving DecidableEq, Repr

def DurationError.message : DurationError → String
  | malformed text => "invalid duration " ++ Text.quoted text
  | textOutOfRange text => "duration out of range: " ++ Text.quoted text
  | numberOutOfRange value => "duration out of range: " ++ value.render .plain
  | notWhole value => "duration must be integer nanoseconds, got " ++ DoubleStyle.plain.render value
  | truthValue => "duration must be a string or integer nanoseconds"

namespace Duration

/-- The empty span. -/
def zero : Duration := ⟨0⟩

/-- The shortest span that can be given. -/
def minMicros : Int := -999999999 * 86400000000

/-- The longest span that can be given. -/
def maxMicros : Int := 1000000000 * 86400000000 - 1

/-- Whether the span lies within the bounds. -/
def inRange (d : Duration) : Bool := minMicros ≤ d.micros && d.micros ≤ maxMicros

/-- Whether the span is longer than nothing. -/
def isPositive (d : Duration) : Bool := 0 < d.micros

/-- The span in seconds, rounded to a double. -/
def toSeconds (d : Duration) : Binary64 := Binary64.ofRatio (d.micros < 0) d.micros.natAbs 1000000

/-- The whole milliseconds of the span, rounded down. -/
def toMillis (d : Duration) : Int := d.micros.fdiv 1000

/-- The span of a number of microseconds, rounded to a whole one and to the even one of two equally
near ones; none if that is outside the bounds. -/
def ofMicroseconds? (x : Binary64) : Option Duration :=
  match x.toRat? with
  | none => none
  | some q =>
    let d : Duration := ⟨nearestEvenInt q⟩
    if d.inRange then some d else none

/-- The span of a number of nanoseconds, first rounded to a double of microseconds. -/
def ofNanoseconds? : Number → Option Duration
  | .int n => ofMicroseconds? (Binary64.ofRatio (n < 0) n.natAbs 1000)
  | .double x => ofMicroseconds? (x.div (Binary64.ofInt 1000))

end Duration

end RetrievalTelemetry
