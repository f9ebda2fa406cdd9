/-
Checks of single values: whole numbers, doubles, truth values and texts.

What people write by hand is taken as it is meant where that is clear: a number may stand in
a text, a double without a fraction may stand for a whole number, and a truth value may be
written as a number or a word.
-/
import RetrievalTelemetry.Binary64.Numeral
import RetrievalTelemetry.Check.Checked
import RetrievalTelemetry.Text.Blank
import RetrievalTelemetry.Text.Search

namespace RetrievalTelemetry

/-- A value as far as a check of a single value can tell. -/
inductive Scalar where
  | null
  | bool (value : Bool)
  | number (value : Number)
  | text (value : String)
  /-- A text with a code that is no character. -/
  | garbled
  /-- Bytes, and the text that they are if they are UTF-8. -/
  | bytes (text : Option String)
  /-- A list, an object or anything else with parts. -/
  | compound
deriving Repr

def Json.scalar : Json → Scalar
  | .null => .null
  | .bool value => .bool value
  | .number value => .number value
  | .string value => .text value
  | _ => .compound

namespace Scalar

/-- A text, perhaps as bytes, and nothing that would have to be made into one. -/
def asText : Scalar → Checked String
  | text s | bytes (some s) => .valid s
  | garbled | bytes none => .refuse .notUnicode
  | _ => .refuse .notText

/-- The size from which a double is no longer taken for a whole number. -/
def wholeLimit : Binary64 := Binary64.ofInt 0x8000000000000000

/-- Whether a whole double is small enough to be taken for a whole number. -/
def isSmall (x : Binary64) : Bool :=
  (if x.isNegative then x.neg else x).lt wholeLimit

/-- The whole number that a double is. -/
def integerOfDouble (x : Binary64) : Except Cause Int :=
  match x.truncate? with
  | none => .error .notFinite
  | some n =>
    if x.isWhole then (if isSmall x then .ok n else .error .integerTooLong) else .error .fractional

/-- Drops further zeros and underscores behind a zero, the last character read.  A point keeps the
character in front of it, and so does the end. -/
def dropZeros (last : Char) : List Char → Option (List Char)
  | [] => some [last]
  | c :: rest =>
    if c = '0' || c = '_' then dropZeros c rest
    else if c = '.' then some (last :: c :: rest)
    else if c.isDigit || c = '-' then some (c :: rest)
    else none

/-- Drops the zeros in front of the text of a number, and underscores between them, as long as
something is left; nothing if the text does not begin like a number. -/
def dropLeadingZeros : List Char → Option (List Char)
  | [] => none
  | c :: rest =>
    if c = '0' then dropZeros c rest else if c.isDigit || c = '-' then some (c :: rest) else none

/-- Drops a point and what follows it, if that is at least one zero and zeros only. -/
def dropZeroFraction (cs : List Char) : List Char :=
  let behind := (cs.dropWhile (· ≠ '.')).drop 1
  if !behind.isEmpty && behind.all (· = '0') then cs.takeWhile (· ≠ '.') else cs

/-- Drops underscores, unless two stand together or one at an end. -/
def dropUnderscores (cs : List Char) : List Char :=
  if cs.head? = some '_' || cs.getLast? = some '_' || Text.occursIn ['_', '_'] cs then cs
  else cs.filter (· ≠ '_')

/-- The most digits that the text of a whole number may have. -/
def maxIntegerDigits : Nat := 4300

/-- The size of a whole number with such digits, without more than one zero in front. -/
def sizeOfDigits (cs : List Char) : Except Cause Nat :=
  let (digits, rest) := Text.spanDigits cs
  if maxIntegerDigits < digits.length then .error .integerTooLong
  else if digits.isEmpty || !rest.isEmpty || (digits.head? = some '0' && 1 < digits.length) then
    .error .notIntegerText
  else .ok (Text.decimalValue digits)

/-- The whole number that digits with an optional minus sign denote. -/
def integerOfDigits : List Char → Except Cause Int
  | '-' :: rest => (sizeOfDigits rest).map fun n => -(n : Int)
  | cs => (sizeOfDigits cs).map fun n => (n : Int)

/-- The whole number that a text denotes: a sign, and digits with gaps and an empty fraction. -/
def integerOfText (s : String) : Except Cause Int :=
  let (negative, body) := match Text.trim Text.isWhite s.toList with
    | '+' :: '-' :: rest => (false, '+' :: '-' :: rest)
    | '+' :: rest => (false, rest)
    | '-' :: rest => (true, rest)
    | cs => (false, cs)
  match dropLeadingZeros body with
  | none => .error .notIntegerText
  | some cs =>
    let digits := dropUnderscores (dropZeroFraction cs)
    integerOfDigits (if negative then '-' :: digits else digits)

/-- A result with its cause as a problem. -/
def ofExcept {α : Type} : Except Cause α → Checked α
  | .ok a => .valid a
  | .error cause => .refuse cause

/-- A whole number. -/
def asInteger : Scalar → Checked Int
  | bool b => .valid (if b then 1 else 0)
  | number (.int n) => .valid n
  | number (.double x) => ofExcept (integerOfDouble x)
  | text s | bytes (some s) => ofExcept (integerOfText s)
  | bytes none => .refuse .notIntegerText
  | garbled => .refuse .notUnicode
  | _ => .refuse .notInteger

/-- A whole number that is not below a bound. -/
def asIntegerFrom (bound : Int) (s : Scalar) : Checked Int :=
  s.asInteger.andThen fun n => if n < bound then .refuse (.below bound) else .valid n

/-- A whole number above zero. -/
def asPositiveInteger (s : Scalar) : Checked Int :=
  s.asInteger.andThen fun n => if n ≤ 0 then .refuse (.notAbove 0) else .valid n

def truthWords : List (String × Bool) :=
  [("true", true), ("t", true), ("yes", true), ("y", true), ("on", true), ("1", true),
   ("false", false), ("f", false), ("no", false), ("n", false), ("off", false), ("0", false)]

/-- The truth value that a whole number denotes. -/
def booleanOfInteger (n : Int) : Except Cause Bool :=
  if n = 0 then .ok false
  else if n = 1 then .ok true
  else if n.natAbs < 0x8000000000000000 || n = -0x8000000000000000 then .error .unclearBoolean
  else .error .notBoolean

/-- A truth value. -/
def asBoolean : Scalar → Checked Bool
  | bool b => .valid b
  | number (.int n) => ofExcept (booleanOfInteger n)
  | number (.double x) =>
    match integerOfDouble x with
    | .ok n => ofExcept (booleanOfInteger n)
    | .error _ => .refuse .notBoolean
  | text s | bytes (some s) =>
    match truthWords.lookup (s.map Char.toLower) with
    | some b => .valid b
    | none => .refuse .unclearBoolean
  | bytes none => .refuse .unclearBoolean
  | garbled => .refuse .notUnicode
  | _ => .refuse .notBoolean

def asOneOf {α : Type} (all : List α) (nameOf : α → String) (s : Scalar) : Checked α :=
  let found := match s with
    | text name => all.find? fun a => nameOf a == name
    | _ => none
  match s, found with
  | garbled, _ => .refuse .notUnicode
  | _, some a => .valid a
  | _, none => .refuse (.notAmong (all.map nameOf))

/-- The double that a text denotes, with blanks around it or with underscores between its
characters. -/
def doubleOfText (s : String) : Except Cause Binary64 :=
  match Binary64.ofCharsOrWord? (Text.trim Text.isWhite s.toList) with
  | some x => .ok x
  | none =>
    if s.toList.contains '_' then
      match Binary64.ofCharsOrWord? (dropUnderscores s.toList) with
      | some x => .ok x
      | none => .error .notNumberText
    else .error .notNumberText

def asDouble : Scalar → Checked Binary64
  | bool b => .valid (Binary64.ofInt (if b then 1 else 0))
  | number n =>
    match n.toDouble? with
    | some x => .valid x
    | none => .refuse .notNumber
  | text s | bytes (some s) => ofExcept (doubleOfText s)
  | bytes none => .refuse .notNumberText
  | garbled => .refuse .notUnicode
  | _ => .refuse .notNumber

/-- A double above zero. -/
def asPositiveDouble (s : Scalar) : Checked Binary64 :=
  s.asDouble.andThen fun x =>
    if (Binary64.zero false).lt x then .valid x else .refuse (.notAbove 0)

end Scalar

end RetrievalTelemetry
