/-
What kind of value a part of a document is.

A tag can say so.  Without one a collection is what it looks like, a quoted text is a text, and a
plain one is the first of these that it has the form of: nothing, a truth value, a double, a whole
number, a sign for merging, a date or a moment, a sign for a value; otherwise it is a text.

In numbers underscores between digits do not count, a leading zero is for base eight, and colons
are for base sixty.
-/
import RetrievalTelemetry.Binary64.Numeral
import RetrievalTelemetry.Text.Search
import RetrievalTelemetry.Time.Calendar

namespace RetrievalTelemetry.Yaml

/-- A kind of value. -/
inductive Tag where
  | null
  | truth
  | integer
  | double
  | bytes
  | time
  | text
  | sequence
  /-- A list of entries, each of which is a mapping of its own. -/
  | orderedMap
  /-- The same, but keys may occur several times. -/
  | pairs
  | mapping
  | set
  /-- The key that asks for the entries of other mappings. -/
  | merge
  /-- The key of the value that a mapping can stand for. -/
  | value
  /-- None that is known. -/
  | unknown
deriving DecidableEq, Repr

namespace Tag

/-- What the names of the usual tags begin with. -/
def family : String := "tag:yaml.org,2002:"

/-- The usual tags. -/
def known : List (String × Tag) :=
  [("null", null), ("bool", truth), ("int", integer), ("float", double), ("binary", bytes),
   ("timestamp", time), ("str", text), ("seq", sequence), ("omap", orderedMap), ("pairs", pairs),
   ("map", mapping), ("set", set), ("merge", merge), ("value", value)]

def ofName (name : String) : Tag :=
  ((known.find? fun entry => family ++ entry.1 == name).map (·.2)).getD unknown

/-! ### Forms of numbers -/

/-- Whether `c` is a digit or an underscore. -/
def isDigitOrGap (c : Char) : Bool := c.isDigit || c = '_'

/-- Whether `cs` are digits and underscores, a digit in front. -/
def isDigits (cs : List Char) : Bool := cs.head?.any Char.isDigit && cs.all isDigitOrGap

/-- Whether `cs` is empty or an exponent with a sign. -/
def isExponent : List Char → Bool
  | [] => true
  | mark :: sign :: digits =>
    (mark = 'e' || mark = 'E') && (sign = '+' || sign = '-') && !digits.isEmpty && digits.all Char.isDigit
  | _ => false

/-- Whether `cs` is a digit of base sixty behind a colon. -/
def isSixtieth : List Char → Bool
  | [d] => d.isDigit
  | [t, d] => '0' ≤ t && t ≤ '5' && d.isDigit
  | _ => false

/-- Whether the parts between colons make a double of base sixty; only the last one has a point. -/
def isSixtyDouble (parts : List (List Char)) : Bool :=
  match parts.head?, parts.getLast? with
  | some first, some last =>
    let fraction := last.dropWhile (· ≠ '.')
    1 < parts.length && isDigits first && (parts.drop 1).dropLast.all isSixtieth &&
      isSixtieth (last.takeWhile (· ≠ '.')) && !fraction.isEmpty && (fraction.drop 1).all isDigitOrGap
  | _, _ => false

/-- Whether a text has the form of a double.  Without digits in front of its point it has no sign. -/
def isDouble (cs : List Char) : Bool :=
  let (sign, body) := Text.splitSign cs
  let word := String.ofList body
  if [".inf", ".Inf", ".INF"].contains word then true
  else if [".nan", ".NaN", ".NAN"].contains word then sign.isNone
  else
    let whole := body.takeWhile isDigitOrGap
    match body.dropWhile isDigitOrGap with
    | '.' :: rest =>
      (if whole.isEmpty then sign.isNone && rest.head?.any Char.isDigit else whole.head?.any Char.isDigit) &&
        isExponent (rest.dropWhile isDigitOrGap)
    | ':' :: _ => isSixtyDouble (Text.splitBy (· = ':') body)
    | _ => false

/-- Whether a text without its sign has the form of a whole number. -/
def isNatural (cs : List Char) : Bool :=
  let within (isOne : Char → Bool) (rest : List Char) : Bool :=
    !rest.isEmpty && rest.all fun c => c = '_' || isOne c
  match cs with
  | ['0'] => true
  | '0' :: 'b' :: rest => within (fun c => c = '0' || c = '1') rest
  | '0' :: 'x' :: rest => within (fun c => (Text.hexDigit? c).isSome) rest
  | '0' :: rest => within (fun c => '0' ≤ c && c ≤ '7') rest
  | cs =>
    match Text.splitBy (· = ':') cs with
    | [] => false
    | first :: rest => isDigits first && rest.all isSixtieth

/-- Whether a text has the form of a whole number. -/
def isInteger (cs : List Char) : Bool := isNatural (Text.splitSign cs).2

/-! ### Forms of dates and moments -/

/-- The time of day and what stands behind it. -/
structure Clock where
  hour : Nat
  minute : Nat
  second : Nat
  /-- The digits behind the point. -/
  fraction : List Char
  /-- The offset in minutes, if one is given. -/
  offset : Option Int

/-- At least `least` and at most `most` digits in front, as a number, and the rest. -/
def digitsIn (least most : Nat) (cs : List Char) : Option (Nat × List Char) :=
  let digits := (cs.take most).takeWhile Char.isDigit
  if least ≤ digits.length then some (Text.decimalValue digits, cs.drop digits.length) else none

/-- The rest behind a character. -/
def behind (c : Char) : List Char → Option (List Char)
  | [] => none
  | d :: rest => if d = c then some rest else none

/-- Whether `c` is a space or a tab. -/
def isGap (c : Char) : Bool := c = ' ' || c = '\t'

/-- The rest behind what stands between date and time. -/
def behindDate : List Char → Option (List Char)
  | [] => none
  | c :: rest =>
    if c = 'T' || c = 't' then some rest else if isGap c then some (rest.dropWhile isGap) else none

/-- The offset in minutes that a text is; nothing if it is empty. -/
def offsetOf? (cs : List Char) : Option (Option Int) :=
  match cs, Text.splitSign (cs.dropWhile isGap) with
  | [], _ => some none
  | _, (none, ['Z']) => some (some 0)
  | _, (some negative, rest) => do
    let (hours, rest) ← digitsIn 1 2 rest
    let minutes ← match rest with
      | [] => some 0
      | rest => do
        let (minutes, rest) ← (behind ':' rest).bind (digitsIn 2 2)
        if rest.isEmpty then some minutes else none
    let offset : Int := hours * 60 + minutes
    some (some (if negative then -offset else offset))
  | _, _ => none

/-- The date and the time of day of a text with the form of a moment, or of a date alone; there need not be
such a day. -/
def timeOf? (cs : List Char) : Option (CalendarDate × Option Clock) := do
  let (year, rest) ← (digitsIn 4 4 cs).bind fun read => (behind '-' read.2).map (read.1, ·)
  let (month, rest) ← (digitsIn 1 2 rest).bind fun read => (behind '-' read.2).map (read.1, ·)
  let (day, rest) ← digitsIn 1 2 rest
  let date : CalendarDate := ⟨year, month, day⟩
  if rest.isEmpty then some (date, none)
  else
    let (hour, rest) ← (behindDate rest).bind (digitsIn 1 2)
    let (minute, rest) ← (behind ':' rest).bind (digitsIn 2 2)
    let (second, rest) ← (behind ':' rest).bind (digitsIn 2 2)
    let (fraction, rest) := match behind '.' rest with
      | some rest => (rest.takeWhile Char.isDigit, rest.dropWhile Char.isDigit)
      | none => ([], rest)
    let offset ← offsetOf? rest
    some (date, some ⟨hour, minute, second, fraction, offset⟩)

/-- The length of a date alone that is known without a tag: it has two digits for month and day. -/
def dateLength : Nat := 10

/-- Whether a text has the form of a date or moment. -/
def isTime (cs : List Char) : Bool :=
  match timeOf? cs with
  | some (_, some _) => true
  | some (_, none) => cs.length = dateLength
  | none => false

/-! ### All together -/

/-- The texts that mean nothing; so does the empty one. -/
def nullWords : List String := ["~", "null", "Null", "NULL"]

/-- The texts that are truth values. -/
def truthWords : List String :=
  ["yes", "Yes", "YES", "no", "No", "NO", "true", "True", "TRUE", "false", "False", "FALSE",
   "on", "On", "ON", "off", "Off", "OFF"]

/-- The texts that only tags and anchors begin with. -/
def markWords : List String := ["!", "&", "*"]

/-- A text without the end of a line at its end. -/
def withoutLastBreak (cs : List Char) : List Char :=
  if cs.getLast? = some '\n' then cs.dropLast else cs

/-- The kind that a text tells by its form.  An end of a line behind it does not count, but such an end
alone is a text. -/
def ofPlain (text : String) : Tag :=
  let cs := withoutLastBreak text.toList
  let stem := String.ofList cs
  if text.isEmpty then .null
  else if cs.isEmpty then .text
  else if truthWords.contains stem then .truth
  else if isDouble cs then .double
  else if isInteger cs then .integer
  else if stem = "<<" then .merge
  else if nullWords.contains stem then .null
  else if isTime cs then .time
  else if stem = "=" then .value
  else if markWords.contains stem then .unknown
  else .text

end Tag

end RetrievalTelemetry.Yaml
