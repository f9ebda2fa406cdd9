/-
The single value that a text has under a tag.

A tag can stand before any text, so the text need not have the form that the tag would be found
by; then it is read as far as numbers and words go.
-/
import RetrievalTelemetry.Text.Base64
import RetrievalTelemetry.Text.LetterCase
import RetrievalTelemetry.Yaml.Fault
import RetrievalTelemetry.Yaml.Tag

namespace RetrievalTelemetry.Yaml

namespace Meaning

/-! ### Numbers -/

/-- Without underscores. -/
def withoutGaps (cs : List Char) : List Char := cs.filter (· ≠ '_')

/-- A sign in front, true for a minus, and the rest; there has to be some text. -/
def signed (cs : List Char) : Except Fault (Bool × List Char) :=
  match cs, Text.splitSign cs with
  | [], _ => .error .emptyNumeral
  | _, (sign, body) => .ok (sign.getD false, body)

/-- A result whose error is one of numerals. -/
def ofNumeral {α : Type} (result : Except Text.NumeralError α) : Except Fault α :=
  result.mapError .numeral

/-- The whole number of a text in a base. -/
def integerIn (base : Nat) (cs : List Char) : Except Fault Int :=
  ofNumeral (Text.integerIn base (String.ofList cs))

/-- The whole number of a text without its sign. -/
def natural (cs : List Char) : Except Fault Int :=
  match cs with
  | [] => .error .emptyNumeral
  | ['0'] => .ok 0
  | '0' :: 'b' :: rest => integerIn 2 rest
  | '0' :: 'x' :: rest => integerIn 16 rest
  | '0' :: _ => integerIn 8 cs
  | _ =>
    ((Text.splitBy (· = ':') cs).mapM (integerIn 10)).map fun digits => digits.foldl (fun n d => 60 * n + d) 0

/-- The whole number of a text. -/
def integer (cs : List Char) : Except Fault Int := do
  let (negative, body) ← signed (withoutGaps cs)
  let n ← natural body
  .ok (if negative then -n else n)

/-- The sum of digits of base sixty, the last one first; a weight has to be small enough for a double. -/
def sumSixty (weight : Int) (sum : Binary64) : List Binary64 → Except Fault Binary64
  | [] => .ok sum
  | digit :: rest =>
    let factor := Binary64.ofInt weight
    if factor.isFinite then sumSixty (weight * 60) (sum.add (digit.mul factor)) rest else .error .tooLarge

/-- The double of a text without its sign. -/
def unsignedDouble (cs : List Char) : Except Fault Binary64 :=
  let word := String.ofList cs
  if word = ".inf" then .ok (.infinity false)
  else if word = ".nan" then .ok .nan
  else if cs.contains ':' then do
    let digits ← (Text.splitBy (· = ':') cs).mapM fun part => ofNumeral (Text.double (String.ofList part))
    sumSixty 1 (Binary64.zero false) digits.reverse
  else ofNumeral (Text.double word)

/-- Whether a text is the word for a NaN. -/
def isWordForNaN (cs : List Char) : Bool :=
  match signed (Text.inSmallLetters (withoutGaps cs)) with
  | .ok (_, body) => String.ofList body = ".nan"
  | .error _ => false

def double (cs : List Char) : Except Fault Binary64 := do
  let (negative, body) ← signed (Text.inSmallLetters (withoutGaps cs))
  let x ← unsignedDouble body
  .ok (if negative then x.neg else x)

/-! ### Dates and moments -/

/-- The date, if there is such a day. -/
def checkDate (d : CalendarDate) : Except Fault CalendarDate :=
  if d.year < 1 then .error (.yearOutOfRange d.year)
  else if d.month < 1 || 12 < d.month then .error .monthOutOfRange
  else if !d.isValid then .error .dayOutOfRange
  else .ok d

/-- The moment, if there is one. -/
def checkMoment (m : Moment) : Except Fault Moment := do
  match m.offset with
  | some minutes => if 1440 ≤ minutes.natAbs then .error (.offsetOutOfRange minutes)
  | none => pure ()
  let _ ← checkDate m.date
  if 23 < m.hour then .error .hourOutOfRange
  else if 59 < m.minute then .error .minuteOutOfRange
  else if 59 < m.second then .error .secondOutOfRange
  else .ok m

/-- The date or moment of a text. -/
def time (cs : List Char) : Except Fault Atom :=
  match Tag.timeOf? (Tag.withoutLastBreak cs) with
  | none => .error .notTime
  | some (date, none) => (checkDate date).map .date
  | some (date, some clock) =>
    let micros := Text.decimalValue ((clock.fraction ++ List.replicate 6 '0').take 6)
    (checkMoment ⟨date, clock.hour, clock.minute, clock.second, micros, clock.offset⟩).map .moment

/-! ### Words and bytes -/

/-- The words for truth values, in small letters. -/
def truthValues : List (String × Bool) :=
  [("yes", true), ("no", false), ("true", true), ("false", false), ("on", true), ("off", false)]

def truth (cs : List Char) : Except Fault Bool :=
  match truthValues.lookup (String.ofList (Text.inSmallLetters cs)) with
  | some b => .ok b
  | none => .error .notTruth

/-- The bytes of a text, which has to be in ASCII. -/
def bytes (cs : List Char) : Except Fault (List UInt8) :=
  match if cs.all fun c => c.toNat < 0x80 then Text.base64Bytes? cs else none with
  | some bytes => .ok bytes
  | none => .error .malformed

end Meaning

/-- The value of a text under a tag, if that is one of single values. -/
def Tag.meaning (tag : Tag) (text : String) : Except Fault Atom :=
  let cs := text.toList
  match tag with
  | .null => .ok .null
  | .truth => (Meaning.truth cs).map .bool
  | .integer => (Meaning.integer cs).map fun n => .number (.int n)
  | .double => (Meaning.double cs).map fun x => .number (.double x)
  | .bytes => (Meaning.bytes cs).map .bytes
  | .time => Meaning.time cs
  | .text => .ok (.text text)
  | _ => .error .malformed

end RetrievalTelemetry.Yaml
