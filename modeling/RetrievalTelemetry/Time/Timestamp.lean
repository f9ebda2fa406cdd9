/-
Points in time, to the microsecond, with the offset they were given in.

The point itself is counted in microseconds since the beginning of 1970 in UTC; the
offset only says how it is shown.  Two timestamps are the same point if they agree on
`micros`, whatever their offsets.
-/
import RetrievalTelemetry.Text.DecimalDigit
import RetrievalTelemetry.Time.Calendar
import RetrievalTelemetry.Time.Duration

namespace RetrievalTelemetry

/-- A point in time and the offset from UTC, in minutes, that it is shown with. -/
structure Timestamp where
  micros : Int
  offset : Int := 0
deriving DecidableEq, Repr, Inhabited

/-- What a clock on a wall shows: the date and the time of day, but not where the wall is. -/
structure WallTime where
  /-- The microseconds since the clock showed the beginning of 1970. -/
  micros : Int
deriving DecidableEq, Repr, Inhabited

namespace WallTime

/-- The point at which a clock in UTC shows it. -/
def inUtc (w : WallTime) : Timestamp := ⟨w.micros, 0⟩

/-- Date and time of day; the fraction is left out when it is zero. -/
def text (w : WallTime) : String :=
  let seconds := w.micros.fdiv 1000000
  let fraction := (w.micros.fmod 1000000).toNat
  let date := CalendarDate.ofDays (seconds.fdiv 86400)
  let rest := (seconds.fmod 86400).toNat
  Text.padded 4 date.year.toNat ++ "-" ++ Text.padded 2 date.month ++ "-" ++ Text.padded 2 date.day ++
    "T" ++ Text.padded 2 (rest / 3600) ++ ":" ++ Text.padded 2 (rest / 60 % 60) ++ ":" ++
    Text.padded 2 (rest % 60) ++ (if fraction = 0 then "" else "." ++ Text.padded 6 fraction)

end WallTime

namespace Timestamp

/-- The first microsecond of the year 1. -/
def firstMicro : Int := -62135596800000000

/-- The last microsecond of the year 9999. -/
def lastMicro : Int := 253402300799999999

/-- What the clock on the wall shows: UTC and the offset. -/
def wall (t : Timestamp) : WallTime := ⟨t.micros + t.offset * 60000000⟩

/-- Whether UTC shows the point with a year from 1 to 9999. -/
def hasUtcYear (t : Timestamp) : Bool :=
  firstMicro ≤ t.micros && t.micros ≤ lastMicro

/-- The same point shown in UTC. -/
def toUtc (t : Timestamp) : Timestamp := ⟨t.micros, 0⟩

/-- Whether `t` is an earlier point than `u`. -/
def isBefore (t u : Timestamp) : Bool := t.micros < u.micros

/-- The span from `u` to `t`. -/
def since (t u : Timestamp) : Duration := ⟨t.micros - u.micros⟩

/-- The offset with its sign, in hours and minutes. -/
def offsetText (t : Timestamp) : String :=
  (if t.offset < 0 then "-" else "+") ++ Text.padded 2 (t.offset.natAbs / 60) ++ ":" ++
    Text.padded 2 (t.offset.natAbs % 60)

/-- Date, time of day and offset. -/
def render (t : Timestamp) : String := t.wall.text ++ t.offsetText

end Timestamp

end RetrievalTelemetry
