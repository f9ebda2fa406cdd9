/-
Reading JSON text.

The syntax is strict, apart from the three literals `NaN`, `Infinity` and `-Infinity`.
Two limits keep hostile texts out: the nesting depth, and the number of digits of a
whole number.  Readers differ in what they do with a surrogate escape that has no
partner, so that is a field of `Dialect`.

A text is read in two steps where it matters: the body of a string becomes a list of
code units first, and only then are the surrogate pairs joined.
-/
import RetrievalTelemetry.Binary64.Numeral
import RetrievalTelemetry.Json.Value

namespace RetrievalTelemetry.Json

/-- What readers of JSON decide for themselves. -/
structure Dialect where
  /-- How deep arrays and objects may be nested. -/
  depth : Nat
  /-- The character for a surrogate without its partner; without one, the text is refused. -/
  unpaired : Option Char
  /-- Whether the limit on digits holds for the whole part of a double, too. -/
  limitsDoubles : Bool

/-- The reader for posted bodies. -/
def Dialect.strict : Dialect where
  depth := 200
  unpaired := none
  limitsDoubles := true

/-- The reader for answers of a registry. -/
def Dialect.tolerant : Dialect where
  depth := 990
  unpaired := some '\uFFFD'
  limitsDoubles := false

/-- Why a text cannot be read. -/
inductive ReadError where
  | malformed
  /-- Arrays and objects are nested too deep. -/
  | tooDeep
deriving DecidableEq, Repr

/-- A step that takes something off the front of a text. -/
abbrev Read (α : Type) := List Char → Except ReadError (α × List Char)

/-- What was read, as part of something larger. -/
def within {α β : Type} (f : α → β) :
    Except ReadError (α × List Char) → Except ReadError (β × List Char) :=
  Except.map fun read => (f read.1, read.2)

/-- Drops the white space of JSON. -/
def skipWhite (cs : List Char) : List Char :=
  cs.dropWhile fun c => c = ' ' || c = '\t' || c = '\n' || c = '\r'

/-- The most digits that the whole part of a number may have. -/
def maxDigits : Nat := 4300

/-- A value that is written as a word. -/
def word (word : String) (meaning : Json) : Read Json := fun cs =>
  if word.toList.isPrefixOf cs then .ok (meaning, cs.drop word.length) else .error .malformed

/-- The whole part of a number: a zero alone, or digits that do not start with one. -/
def wholeDigits : Read (List Char)
  | '0' :: rest => .ok (['0'], rest)
  | cs => match Text.spanDigits cs with
    | ([], _) => .error .malformed
    | read => .ok read

/-- The digits behind a point, none if there is no point; a point needs a digit. -/
def fractionDigits : Read (Option (List Char))
  | '.' :: rest => match Text.spanDigits rest with
    | ([], _) => .error .malformed
    | (digits, rest) => .ok (some digits, rest)
  | cs => .ok (none, cs)

/-- The exponent, none if there is no mark; a mark needs a digit. -/
def exponentPart : Read (Option Int)
  | [] => .ok (none, [])
  | mark :: rest =>
    if mark = 'e' || mark = 'E' then
      let (sign, rest) := Text.splitSign rest
      match Text.spanDigits rest with
      | ([], _) => .error .malformed
      | (digits, rest) =>
        let size : Int := Text.decimalValue digits
        .ok (some (if sign = some true then -size else size), rest)
    else .ok (none, mark :: rest)

/-- A number without its sign. -/
def magnitude (dialect : Dialect) (negative : Bool) : Read Number := fun cs => do
  let (whole, cs) ← wholeDigits cs
  let (fraction, cs) ← fractionDigits cs
  let (exponent, cs) ← exponentPart cs
  let isInteger := fraction.isNone && exponent.isNone
  if maxDigits < whole.length && (isInteger || dialect.limitsDoubles) then .error .malformed
  else if isInteger then
    let size : Int := Text.decimalValue whole
    .ok (.int (if negative then -size else size), cs)
  else .ok (.double (Binary64.ofDecimal negative (Numeral.mk whole fraction exponent).decimal), cs)

/-- The code units of the body of a string, up to its closing quote; `done` holds those already
read, the last one first. -/
def bodyUnits (done : List Nat) : Read (List Nat)
  | '\x22' :: rest => .ok (done.reverse, rest)
  | '\\' :: 'u' :: a :: b :: c :: d :: rest =>
    match Text.hexDigit? a, Text.hexDigit? b, Text.hexDigit? c, Text.hexDigit? d with
    | some a, some b, some c, some d => bodyUnits ((((a * 16 + b) * 16 + c) * 16 + d) :: done) rest
    | _, _, _, _ => .error .malformed
  | '\\' :: mark :: rest =>
    match mark with
    | '\x22' => bodyUnits (0x22 :: done) rest
    | '\\' => bodyUnits (0x5C :: done) rest
    | '/' => bodyUnits (0x2F :: done) rest
    | 'b' => bodyUnits (8 :: done) rest
    | 'f' => bodyUnits (12 :: done) rest
    | 'n' => bodyUnits (10 :: done) rest
    | 'r' => bodyUnits (13 :: done) rest
    | 't' => bodyUnits (9 :: done) rest
    | _ => .error .malformed
  | c :: rest => if c.toNat < 0x20 then .error .malformed else bodyUnits (c.toNat :: done) rest
  | [] => .error .malformed

/-- Whether a unit is the first half of a pair. -/
def isHigh (u : Nat) : Bool := 0xD800 ≤ u && u < 0xDC00

/-- Whether a unit is the second half of a pair. -/
def isLow (u : Nat) : Bool := 0xDC00 ≤ u && u < 0xE000

/-- The character of a unit that is not part of a pair. -/
def lone (dialect : Dialect) (u : Nat) : Option Char :=
  if isHigh u || isLow u then dialect.unpaired else some (Char.ofNat u)

/-- Joins the surrogate pairs of a list of units. -/
def joinUnits (dialect : Dialect) : List Nat → Option (List Char)
  | [] => some []
  | [u] => (lone dialect u).map ([·])
  | u :: v :: rest =>
    if isHigh u && isLow v then
      (joinUnits dialect rest).map (Char.ofNat (0x10000 + (u - 0xD800) * 0x400 + (v - 0xDC00)) :: ·)
    else do
      let c ← lone dialect u
      (joinUnits dialect (v :: rest)).map (c :: ·)

/-- A string behind its opening quote. -/
def stringBody (dialect : Dialect) : Read String := fun cs => do
  let (units, rest) ← bodyUnits [] cs
  match joinUnits dialect units with
  | some chars => .ok (String.ofList chars, rest)
  | none => .error .malformed

/-- The values that are written as a word, and numbers. -/
def atom (dialect : Dialect) : Read Json := fun cs =>
  match cs with
  | 't' :: _ => word "true" (.bool true) cs
  | 'f' :: _ => word "false" (.bool false) cs
  | 'n' :: _ => word "null" .null cs
  | 'N' :: _ => word "NaN" (.number (.double .nan)) cs
  | 'I' :: _ => word "Infinity" (.number (.double (.infinity false))) cs
  | '-' :: 'I' :: _ => word "-Infinity" (.number (.double (.infinity true))) cs
  | '-' :: rest => within .number (magnitude dialect true rest)
  | cs => within .number (magnitude dialect false cs)

mutual

/-- A value with `depth` levels of nesting left. -/
def value (dialect : Dialect) : (fuel depth : Nat) → Read Json
  | 0, _, _ => .error .malformed
  | fuel + 1, depth, cs =>
    match skipWhite cs with
    | '\x22' :: rest => within .string (stringBody dialect rest)
    | '[' :: rest =>
      match depth, skipWhite rest with
      | 0, _ => .error .tooDeep
      | _ + 1, ']' :: rest => .ok (.array [], rest)
      | depth + 1, rest => within .array (items dialect fuel depth rest)
    | '{' :: rest =>
      match depth, skipWhite rest with
      | 0, _ => .error .tooDeep
      | _ + 1, '}' :: rest => .ok (.object [], rest)
      | depth + 1, rest => within .object (fields dialect fuel depth rest)
    | cs => atom dialect cs

/-- The items of an array that is not empty, and its closing bracket. -/
def items (dialect : Dialect) : (fuel depth : Nat) → Read (List Json)
  | 0, _, _ => .error .malformed
  | fuel + 1, depth, cs => do
    let (first, cs) ← value dialect fuel depth cs
    match skipWhite cs with
    | ']' :: rest => .ok ([first], rest)
    | ',' :: rest => within (first :: ·) (items dialect fuel depth rest)
    | _ => .error .malformed

/-- The fields of an object that is not empty, and its closing brace. -/
def fields (dialect : Dialect) : (fuel depth : Nat) → Read (List (String × Json))
  | 0, _, _ => .error .malformed
  | fuel + 1, depth, cs =>
    match skipWhite cs with
    | '\x22' :: rest => do
      let (name, cs) ← stringBody dialect rest
      match skipWhite cs with
      | ':' :: rest =>
        let (first, cs) ← value dialect fuel depth rest
        match skipWhite cs with
        | '}' :: rest => .ok ([(name, first)], rest)
        | ',' :: rest => within ((name, first) :: ·) (fields dialect fuel depth rest)
        | _ => .error .malformed
      | _ => .error .malformed
    | _ => .error .malformed

end

/-- The value that a whole text denotes, character by character, or why it denotes none.  A value takes
at least one character and is entered from a list of items at most once, so twice the length is fuel
enough. -/
def readChars (dialect : Dialect) (cs : List Char) : Except ReadError Json :=
  match value dialect (2 * cs.length + 2) dialect.depth cs with
  | .ok (json, rest) => if (skipWhite rest).isEmpty then .ok json else .error .malformed
  | .error e => .error e

/-- The value that a whole text denotes, or why it denotes none. -/
def read (dialect : Dialect) (text : String) : Except ReadError Json := readChars dialect text.toList

/-- The value that a whole text denotes. -/
def read? (dialect : Dialect) (text : String) : Option Json := (read dialect text).toOption

/-- The value that a sequence of bytes denotes, read as UTF-8. -/
def ofBytes? (dialect : Dialect) (bytes : ByteArray) : Option Json :=
  (String.fromUTF8? bytes).bind (read? dialect)

end RetrievalTelemetry.Json
