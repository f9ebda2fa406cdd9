/-
Single values of YAML, which are also its keys.

Keys are told apart by value: a number is the same key whichever way it is written, and the
truth values are the same keys as one and zero.
-/
import RetrievalTelemetry.Number
import RetrievalTelemetry.Text.DecimalDigit
import RetrievalTelemetry.Time.Calendar

namespace RetrievalTelemetry.Yaml

/-- A time of day on a date, with an offset in minutes if one is given. -/
structure Moment where
  date : CalendarDate
  hour : Nat
  minute : Nat
  second : Nat
  micros : Nat
  offset : Option Int
deriving DecidableEq, Repr

namespace Moment

/-- The microseconds on the wall since 1970 began there. -/
def wall (m : Moment) : Int :=
  (((m.date.toDays * 24 + m.hour) * 60 + m.minute) * 60 + m.second) * 1000000 + m.micros

/-- Whether two moments are the same; one with an offset is never the same as one without. -/
def same (m n : Moment) : Bool :=
  match m.offset, n.offset with
  | none, none => m.wall == n.wall
  | some a, some b => m.wall - a * 60000000 == n.wall - b * 60000000
  | _, _ => false

end Moment

/-- A single value. -/
inductive Atom where
  | null
  | bool (value : Bool)
  | number (value : Number)
  | text (value : String)
  /-- A text with a code that is no character, as it is shown. -/
  | garbled (shown : String)
  | bytes (value : List UInt8)
  | date (value : CalendarDate)
  | moment (value : Moment)
deriving Repr

namespace Atom

/-- The number that a key counts as. -/
def number? : Atom → Option Number
  | bool b => some (.int (if b then 1 else 0))
  | number n => some n
  | _ => none

def isNaN : Atom → Bool
  | number (.double x) => x.isNaN
  | _ => false

/-- Whether two keys are the same. -/
def same (a b : Atom) : Bool :=
  match a, b with
  | null, null => true
  | text s, text t => s == t
  | garbled s, garbled t => s == t
  | bytes s, bytes t => s == t
  | date d, date e => d == e
  | moment m, moment n => m.same n
  | a, b =>
    match a.number?, b.number? with
    | some m, some n => m.eq n || m == n
    | _, _ => false

instance : BEq Atom := ⟨same⟩

/-- A span of minutes as a call that makes it. -/
def spanLiteral (minutes : Int) : String :=
  let days := minutes.fdiv 1440
  let seconds := minutes.fmod 1440 * 60
  let parts := (if days = 0 then [] else ["days=" ++ toString days]) ++
    (if seconds = 0 then [] else ["seconds=" ++ toString seconds])
  "datetime.timedelta(" ++ (if parts.isEmpty then "0" else String.intercalate ", " parts) ++ ")"

/-- A moment as a call that makes it; seconds and their fractions are left out when they are zero. -/
def momentLiteral (m : Moment) : String :=
  let time := [m.hour, m.minute] ++
    (if m.micros ≠ 0 then [m.second, m.micros] else if m.second ≠ 0 then [m.second] else [])
  let zone := match m.offset with
    | none => []
    | some minutes =>
      ["tzinfo=" ++ (if minutes = 0 then "datetime.timezone.utc"
        else "datetime.timezone(" ++ spanLiteral minutes ++ ")")]
  "datetime.datetime(" ++
    String.intercalate ", " ([toString m.date.year, toString m.date.month, toString m.date.day] ++
      time.map toString ++ zone) ++ ")"

/-- One of the bytes between two quotes. -/
def byteLiteral (quote : Char) (b : UInt8) : String :=
  let c := Char.ofNat b.toNat
  if c = '\\' then "\\\\"
  else if c = quote then String.ofList ['\\', c]
  else if c = '\n' then "\\n"
  else if c = '\r' then "\\r"
  else if c = '\t' then "\\t"
  else if 0x20 ≤ b && b < 0x7F then String.singleton c
  else "\\x" ++ Text.hexText 2 b.toNat

/-- Bytes as a literal; the quote is single unless there are single quotes and no double ones inside. -/
def bytesLiteral (bytes : List UInt8) : String :=
  let quote := if bytes.contains 0x27 && !bytes.contains 0x22 then '\x22' else '\x27'
  "b" ++ String.singleton quote ++ String.join (bytes.map (byteLiteral quote)) ++ String.singleton quote

/-- The value as a step of a path. -/
def step : Atom → String
  | null => "None"
  | bool b => if b then "1" else "0"
  | number n => n.render .plain
  | text s => s
  | garbled s => s
  | bytes b => bytesLiteral b
  | date d =>
    "datetime.date(" ++
      String.intercalate ", " [toString d.year, toString d.month, toString d.day] ++ ")"
  | moment m => momentLiteral m

end Atom

end RetrievalTelemetry.Yaml
