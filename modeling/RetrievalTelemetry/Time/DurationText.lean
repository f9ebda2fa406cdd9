/-
Durations as text, such as `1h2m3.5s`.

A duration is an optional sign and then either a lone zero or one or more parts, each a
decimal number and a unit with nothing in between.  Digits may be those of any script.
Blanks around the whole are ignored.

Parts are searched for: the next one may begin anywhere, its number takes as many digits as it can
and gives them back where no unit follows.  A part counts only if it begins where the one before it
ends, and in the end nothing may be left over.
-/
import RetrievalTelemetry.Binary64.Numeral
import RetrievalTelemetry.Text.Blank
import RetrievalTelemetry.Time.Duration

namespace RetrievalTelemetry

/-- The units of duration text. -/
inductive TimeUnit where
  | nanosecond
  | microsecond
  | millisecond
  | second
  | minute
  | hour
deriving DecidableEq, Repr

/-- The length of a unit in nanoseconds. -/
def TimeUnit.nanoseconds : TimeUnit → Nat
  | nanosecond => 1
  | microsecond => 1000
  | millisecond => 1000000
  | second => 1000000000
  | minute => 60 * 1000000000
  | hour => 3600 * 1000000000

/-- One number with its unit; the digits of the number are kept as written. -/
structure DurationPart where
  whole : List Char
  fraction : List Char
  unit : TimeUnit
deriving DecidableEq, Repr

namespace DurationPart

def decimal (p : DurationPart) : Decimal :=
  ⟨Text.decimalValue (p.whole ++ p.fraction), -(p.fraction.length : Int)⟩

/-- The nanoseconds of the part, as the product of two doubles. -/
def nanoseconds (p : DurationPart) : Binary64 :=
  (Binary64.ofDecimal false p.decimal).mul (Binary64.ofInt p.unit.nanoseconds)

end DurationPart

namespace Duration

/-- Digits off the front, as many as there can be for what is read behind them; `taken` are those
before, the last one first. -/
def digitsThen {α : Type} (next : List Char → List Char → Option α) (taken : List Char) :
    List Char → Option α
  | [] => next taken.reverse []
  | c :: cs =>
    if Text.isDecimalDigit c then
      match digitsThen next (c :: taken) cs with
      | some read => some read
      | none => next taken.reverse (c :: cs)
    else next taken.reverse (c :: cs)

/-- The same with at least one digit. -/
def someDigitsThen {α : Type} (next : List Char → List Char → Option α) : List Char → Option α
  | [] => none
  | c :: cs => if Text.isDecimalDigit c then digitsThen next [c] cs else none

/-- A unit off the front of a text. -/
def takeUnit : List Char → Option (TimeUnit × List Char)
  | 'n' :: 's' :: rest => some (.nanosecond, rest)
  | 'u' :: 's' :: rest => some (.microsecond, rest)
  | '\u00B5' :: 's' :: rest => some (.microsecond, rest)
  | '\u03BC' :: 's' :: rest => some (.microsecond, rest)
  | 'm' :: 's' :: rest => some (.millisecond, rest)
  | 's' :: rest => some (.second, rest)
  | 'm' :: rest => some (.minute, rest)
  | 'h' :: rest => some (.hour, rest)
  | _ => none

/-- A part whose digits are read, with the unit in front of the rest. -/
def withUnit (whole fraction rest : List Char) : Option (DurationPart × List Char) :=
  (takeUnit rest).map fun read => (⟨whole, fraction, read.1⟩, read.2)

/-- A part whose digits in front of a point are read: with a fraction if there is a point, or without
one. -/
def behindWhole (whole rest : List Char) : Option (DurationPart × List Char) :=
  let pointed := match rest with
    | '.' :: behind => digitsThen (withUnit whole) [] behind
    | _ => none
  pointed.or (withUnit whole [] rest)

/-- The part at the front of a text: digits with an optional point and fraction, or a point and at least
one digit, and a unit. -/
def partAt (cs : List Char) : Option (DurationPart × List Char) :=
  let pointed := match cs with
    | '.' :: behind => someDigitsThen (withUnit []) behind
    | _ => none
  (someDigitsThen behindWhole cs).or pointed

/-- The first part that begins anywhere, with the number of characters before it. -/
def nextPart : List Char → Option (Nat × DurationPart × List Char)
  | [] => none
  | c :: cs =>
    match partAt (c :: cs) with
    | some read => some (0, read)
    | none => (nextPart cs).map fun found => (found.1 + 1, found.2)

/-- The parts that follow each other from the beginning on, and what is left over.  Each part takes a
character, so the length of the text is fuel enough. -/
def scan : (fuel : Nat) → List Char → List DurationPart × List Char
  | 0, cs => ([], cs)
  | fuel + 1, cs =>
    match nextPart cs with
    | some (0, part, rest) =>
      let (parts, left) := scan fuel rest
      (part :: parts, left)
    | _ => ([], cs)

/-- The sum of the parts in nanoseconds, added as doubles from the left. -/
def totalNanoseconds (parts : List DurationPart) : Binary64 :=
  parts.foldl (fun sum part => sum.add part.nanoseconds) (Binary64.zero false)

/-- The duration that a text denotes. -/
def ofText (text : String) : Except DurationError Duration :=
  let (sign, body) := Text.splitSign (Text.trim Text.isBlank text.toList)
  if body = ['0'] then .ok zero
  else if body = [] then .error (.malformed text)
  else
    let (parts, rest) := scan body.length body
    if rest = [] then
      let sum := totalNanoseconds parts
      let signed := if sign = some true then sum.neg else sum
      match ofNanoseconds? (.double signed) with
      | none => .error (.textOutOfRange text)
      | some d => .ok d
    else .error (.malformed text)

end Duration

end RetrievalTelemetry
