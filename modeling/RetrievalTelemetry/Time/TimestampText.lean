/-
Timestamps as text and as numbers.

A text is a calendar date, one of the separators `T`, `t`, space and `_`, a time of day to
the minute or finer, and an offset.  Fractions of a second beyond the sixth digit are cut
off.  A text without an offset is a timestamp of an unknown place and is told apart from
text that is no timestamp at all.

A number, also one written as text, counts seconds since the beginning of 1970, unless it is so
large that it can only be milliseconds.
-/
import RetrievalTelemetry.Binary64.Numeral
import RetrievalTelemetry.Time.Timestamp

namespace RetrievalTelemetry

/-- Why something is no timestamp. -/
inductive TimestampError where
  /-- Neither a date with a time nor a number in range. -/
  | malformed
  /-- A date with or without a time, but no offset. -/
  | noOffset
deriving DecidableEq, Repr

namespace Timestamp

/-- Two digits off the front of a text. -/
def twoDigits : List Char → Option (Nat × List Char)
  | a :: b :: rest =>
    match Text.asciiDigit? a, Text.asciiDigit? b with
    | some a, some b => some (10 * a + b, rest)
    | _, _ => none
  | _ => none

/-- Takes the expected character off the front of a text. -/
def expect (c : Char) : List Char → Option (List Char)
  | d :: rest => if d = c then some rest else none
  | [] => none

/-- A calendar date off the front of a text; the year may be zero here. -/
def takeDate (cs : List Char) : Option (CalendarDate × List Char) := do
  let (century, cs) ← twoDigits cs
  let (year, cs) ← twoDigits cs
  let cs ← expect '-' cs
  let (month, cs) ← twoDigits cs
  let cs ← expect '-' cs
  let (day, cs) ← twoDigits cs
  let date := CalendarDate.mk (100 * century + year : Nat) month day
  if date.isValid then some (date, cs) else none

/-- The microseconds of a fraction: six digits, filled up with zeros, the others cut off. -/
def fractionMicros (digits : List Char) : Nat :=
  Text.decimalValue ((digits ++ List.replicate 6 '0').take 6)

/-- The seconds of a time of day with their fraction, in microseconds; nothing if the text goes on
in another way. -/
def takeSeconds : List Char → Option (Nat × List Char)
  | ':' :: rest => do
    let (second, rest) ← twoDigits rest
    if 59 < second then none
    else
      match rest with
      | [] => some (second * 1000000, [])
      | mark :: behind =>
        if mark = '.' || mark = ',' then
          let digits := behind.takeWhile Char.isDigit
          if digits.isEmpty then none
          else some (second * 1000000 + fractionMicros digits, behind.dropWhile Char.isDigit)
        else some (second * 1000000, rest)
  | cs => some (0, cs)

/-- A time of day off the front of a text, in microseconds. -/
def takeTime (cs : List Char) : Option (Nat × List Char) := do
  let (hour, cs) ← twoDigits cs
  let cs ← expect ':' cs
  let (minute, cs) ← twoDigits cs
  if 23 < hour || 59 < minute then none
  else
    let (micros, cs) ← takeSeconds cs
    some ((hour * 3600 + minute * 60) * 1000000 + micros, cs)

/-- The hours and minutes of an offset, the colon between them optional; below a day. -/
def takeOffsetSize (cs : List Char) : Option (Nat × List Char) := do
  let (hour, cs) ← twoDigits cs
  let cs := match cs with
    | ':' :: rest => rest
    | cs => cs
  let (minute, cs) ← twoDigits cs
  if 59 < minute || 1440 ≤ hour * 60 + minute then none else some (hour * 60 + minute, cs)

/-- The offset that ends a text, none if the text is over; the minus sign U+2212 counts as one. -/
def readOffset : List Char → Option (Option Int)
  | [] => some none
  | c :: rest =>
    if c = 'Z' || c = 'z' then (if rest.isEmpty then some (some 0) else none)
    else if c = '+' || c = '-' || c = '\u2212' then
      match takeOffsetSize rest with
      | some (size, []) => some (some (if c = '+' then size else -size))
      | _ => none
    else none

/-- A date and time of day on the wall, as microseconds. -/
def wallMicros (date : CalendarDate) (time : Nat) : Int :=
  date.toDays * 86400000000 + time

/-- The timestamp that a text with a date denotes; nothing if the text is of another kind. -/
def ofDateText (cs : List Char) : Option (Except TimestampError Timestamp) := do
  let (date, cs) ← takeDate cs
  match cs with
  | [] => some (.error .noOffset)
  | separator :: rest =>
    if separator = 'T' || separator = 't' || separator = ' ' || separator = '_' then
      let (time, rest) ← takeTime rest
      match ← readOffset rest with
      | none => some (.error .noOffset)
      | some offset =>
        if date.year = 0 then some (.error .malformed)
        else some (.ok ⟨wallMicros date time - offset * 60000000, offset⟩)
    else none

/-- The greatest number that still counts seconds. -/
def secondsLimit : Int := 20000000000

/-- The microseconds in one step of a count: a second, or a millisecond if the count is too large for
seconds. -/
def unixStep (large : Bool) : Int := if large then 1000 else 1000000

/-- The point so many microseconds after the beginning of 1970, unless its year is out of range. -/
def ofUnixMicros (micros : Int) : Except TimestampError Timestamp :=
  let t : Timestamp := ⟨micros, 0⟩
  if t.hasUtcYear then .ok t else .error .malformed

/-- The point that a whole number denotes. -/
def ofUnix (count : Int) : Except TimestampError Timestamp :=
  ofUnixMicros (count * unixStep (secondsLimit.natAbs < count.natAbs))

/-- The whole number nearest to `q`; a half is rounded up. -/
def nearestUp (q : Rat) : Int := (q + 1 / 2).floor

/-- The point that a double denotes: the whole number below it counts, and what is left over is
rounded to microseconds as a double. -/
def ofDouble (x : Binary64) : Except TimestampError Timestamp :=
  match x.toRat? with
  | none => .error .malformed
  | some q =>
    let step := unixStep ((Binary64.ofInt secondsLimit).lt (if x.isNegative then x.neg else x))
    let excess := (x.sub (Binary64.ofInt q.floor)).mul (Binary64.ofInt step)
    ofUnixMicros (q.floor * step + nearestUp excess.toRat)

/-- The point that a number denotes. -/
def ofNumber : Number → Except TimestampError Timestamp
  | .int n => ofUnix n
  | .double x => ofDouble x

/-- The timestamp that the text of a number denotes: a sign, and digits alone or a numeral with a
point. -/
def ofNumberText (cs : List Char) : Except TimestampError Timestamp :=
  let (sign, body) := Text.splitSign cs
  let negative := sign.getD false
  match Numeral.ofChars? body with
  | none => .error .malformed
  | some n =>
    match n.fraction, n.exponent with
    | some _, _ => ofDouble (Binary64.ofDecimal negative n.decimal)
    | none, none =>
      let size : Int := n.decimal.digits
      ofUnix (if negative then -size else size)
    | none, some _ => .error .malformed

/-- The timestamp that a text denotes. -/
def ofText (text : String) : Except TimestampError Timestamp :=
  (ofDateText text.toList).getD (ofNumberText text.toList)

end Timestamp

end RetrievalTelemetry
