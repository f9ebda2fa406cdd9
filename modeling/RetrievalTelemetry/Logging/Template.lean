/-
Templates: messages with places for values.

The places take the values one by one, or by key from a single object, and the first thing that
does not fit decides why a template cannot be filled.  Values in order have to be used up; an
object, or a list that stands for one value, may stay unused.
-/
import RetrievalTelemetry.Binary64.Places
import RetrievalTelemetry.Json.Literal
import RetrievalTelemetry.Logging.Template.Piece

namespace RetrievalTelemetry

/-- Why a template cannot be filled. -/
inductive TemplateError where
  /-- Too few or too many values, or one of the wrong type. -/
  | mismatch
  /-- A key that is not closed. -/
  | unclosedKey
  /-- The template ends within a place. -/
  | unfinished
  /-- There is no such kind of value. -/
  | unknownKind (kind : Char) (index : Nat)
  /-- A width or a precision beyond all bounds. -/
  | wide
  | precise
  /-- A NaN would have to be whole. -/
  | notANumber
  /-- An object without a key. -/
  | missingKey
  /-- A number that is too large. -/
  | tooLarge
  /-- A text that is too long to be held. -/
  | tooLong
deriving DecidableEq, Repr

/-- What a template that can be filled with nothing is told. -/
def TemplateError.message : TemplateError → String
  | unclosedKey => "incomplete format key"
  | unfinished => "incomplete format"
  | unknownKind kind index =>
    let shown := if 31 ≤ kind.toNat ∧ kind.toNat < 127 then kind else '?'
    "unsupported format character '" ++ String.singleton shown ++ "' (0x" ++
      String.ofList (Nat.toDigits 16 kind.toNat) ++ ") at index " ++ toString index
  | wide => "width too big"
  | precise => "precision too big"
  | notANumber => "cannot convert float NaN to integer"
  | mismatch | missingKey | tooLarge | tooLong => ""

namespace Template

/-- What the places take their values from. -/
structure Supply where
  /-- The values that are left. -/
  left : List Json
  /-- Where keys are looked up. -/
  keyed : Option Json := none

namespace Supply

/-- Several values in order; a single object that is not empty also has keys. -/
def ofValues : List Json → Supply
  | [.object (field :: fields)] => ⟨[.object (field :: fields)], some (.object (field :: fields))⟩
  | values => ⟨values, none⟩

/-- One value; lists and objects may stay unused. -/
def ofValue : Json → Supply
  | .array items => ⟨[.array items], some (.array items)⟩
  | .object fields => ⟨[.object fields], some (.object fields)⟩
  | other => ⟨[other], none⟩

def next (s : Supply) : Except TemplateError (Json × Supply) :=
  match s.left with
  | [] => .error .mismatch
  | value :: left => .ok (value, { s with left })

/-- The supply for a place: behind a key, the value found there is the only one left. -/
def select (s : Supply) : Source → Except TemplateError Supply
  | .next => .ok s
  | .unclosed => .error (if s.keyed.isNone then .mismatch else .unclosedKey)
  | .key name =>
    match s.keyed with
    | some (.object fields) =>
      match lastField? name fields with
      | some value => .ok { s with left := [value] }
      | none => .error .missingKey
    | _ => .error .mismatch

/-- Whether values are left that have to be used. -/
def isUnused (s : Supply) : Bool := s.keyed.isNone && !s.left.isEmpty

end Supply

/-- The greatest number of characters that a place may be filled up to. -/
def longest : Nat := 0x1000000000

/-- A value as a whole number, as far as it is one: neither doubles nor texts are. -/
def whole? : Json → Option Int
  | .bool b => some (if b then 1 else 0)
  | .number (.int n) => some n
  | _ => none

/-- How far a width or precision goes; `limit` is the first one too large. -/
def lengthOf (limit : Nat) (e : TemplateError) (s : Supply) : Length → Except TemplateError (Option Int × Supply)
  | .unset => .ok (none, s)
  | .given n => if limit ≤ n then .error e else .ok (some n, s)
  | .taken => do
    let (value, s) ← s.next
    match whole? value with
    | none => .error .mismatch
    | some n =>
      if (limit : Int) ≤ n ∨ n < -(limit : Int) then .error .tooLarge else .ok (some n, s)

/-- The parts of a value that is to be set. -/
structure Shown where
  /-- Whether it is a number, so that it has a sign. -/
  isNumber : Bool
  isNegative : Bool := false
  /-- What says in which base the digits are. -/
  marker : String := ""
  body : String

/-- A value with its sign, filled up to a width: on the right, with zeros behind the sign, or on the
left. -/
def Shown.set (shown : Shown) (flags : List Char) (width : Nat) : String :=
  let sign :=
    if !shown.isNumber then "" else if shown.isNegative then "-"
    else if flags.contains '+' then "+" else if flags.contains ' ' then " " else ""
  let missing := width - (sign.length + shown.marker.length + shown.body.length)
  let fill (c : Char) : String := String.ofList (List.replicate missing c)
  if flags.contains '-' then sign ++ shown.marker ++ shown.body ++ fill ' '
  else if shown.isNumber && flags.contains '0' then sign ++ shown.marker ++ fill '0' ++ shown.body
  else fill ' ' ++ sign ++ shown.marker ++ shown.body

/-- The first characters of a text, as many as a precision says. -/
def cut (precision : Option Nat) (text : String) : Shown :=
  ⟨false, false, "",
    match precision with
    | some n => String.ofList (text.toList.take n)
    | none => text⟩

/-- A literal in ASCII: all other characters are written by code point. -/
def plainLiteral (value : Json) : String :=
  String.join (value.literal.toList.map fun c =>
    if c.toNat < 0x80 then String.singleton c
    else if c.toNat < 0x100 then "\\x" ++ Text.hexText 2 c.toNat
    else if c.toNat < 0x10000 then "\\u" ++ Text.hexText 4 c.toNat
    else "\\U" ++ Text.hexText 8 c.toNat)

/-- The whole number that a number is shown as; a double loses its fraction. -/
def wholePart : Json → Except TemplateError Int
  | .bool b => .ok (if b then 1 else 0)
  | .number (.int n) => .ok n
  | .number (.double x) =>
    match x.truncate? with
    | some n => .ok n
    | none => .error (if x.isNaN then .notANumber else .tooLarge)
  | _ => .error .mismatch

/-- A whole number by its digits, filled up with zeros to a precision. -/
def digitsShown (precision : Option Nat) (negative : Bool) (marker digits : String) : Shown :=
  let zeros := precision.getD 0 - digits.length
  ⟨true, negative, marker, String.ofList (List.replicate zeros '0') ++ digits⟩

/-- A whole number in a base that is a power of two. -/
def inBase (base : Nat) (marker : Char) (flags : List Char) (precision : Option Nat) (value : Json) :
    Except TemplateError Shown :=
  match whole? value with
  | none => .error .mismatch
  | some n =>
    let marker := if flags.contains '#' then String.ofList ['0', marker] else ""
    .ok (digitsShown precision (n < 0) marker (String.ofList (Nat.toDigits base n.natAbs)))

/-- Capital letters throughout. -/
def Shown.inCapitals (shown : Shown) : Shown :=
  { shown with marker := shown.marker.toUpper, body := shown.body.toUpper }

/-- A number in a form with places; six of them if nothing is said. -/
def withPlaces (form : PlacesForm) (flags : List Char) (precision : Option Nat) (value : Json) :
    Except TemplateError Shown :=
  let double : Except TemplateError Binary64 :=
    match value with
    | .bool b => .ok (Binary64.ofInt (if b then 1 else 0))
    | .number n =>
      match n.toDouble? with
      | some x => .ok x
      | none => .error .tooLarge
    | _ => .error .mismatch
  double.map fun x =>
    let text := x.placesText form (flags.contains '#') (precision.getD 6)
    ⟨true, text.startsWith "-", "", if text.startsWith "-" then (text.drop 1).toString else text⟩

/-- One character, by itself or by its code point. -/
def characterShown (value : Json) : Except TemplateError Shown :=
  match value with
  | .string s => if s.length = 1 then .ok ⟨false, false, "", s⟩ else .error .mismatch
  | other =>
    match whole? other with
    | none => .error .mismatch
    | some n =>
      if 0 ≤ n ∧ n < 0x110000 then .ok ⟨false, false, "", String.singleton (Char.ofNat n.toNat)⟩
      else .error .tooLarge

/-- A value as a kind of place shows it. -/
def shownAs (kind : Char) (index : Nat) (flags : List Char) (precision : Option Nat) (value : Json) :
    Except TemplateError Shown :=
  match kind with
  | 's' => .ok (cut precision value.display)
  | 'r' => .ok (cut precision value.literal)
  | 'a' => .ok (cut precision (plainLiteral value))
  | 'd' | 'i' | 'u' =>
    (wholePart value).map fun n => digitsShown precision (n < 0) "" (toString n.natAbs)
  | 'o' => inBase 8 'o' flags precision value
  | 'x' => inBase 16 'x' flags precision value
  | 'X' => (inBase 16 'x' flags precision value).map Shown.inCapitals
  | 'e' => withPlaces .scientific flags precision value
  | 'f' => withPlaces .fixed flags precision value
  | 'g' => withPlaces .general flags precision value
  | 'E' => (withPlaces .scientific flags precision value).map Shown.inCapitals
  | 'F' => (withPlaces .fixed flags precision value).map Shown.inCapitals
  | 'G' => (withPlaces .general flags precision value).map Shown.inCapitals
  | 'c' => characterShown value
  | _ => .error (.unknownKind kind index)

/-- The text of a place, and the values that are left. -/
def fillPlace (p : Place) (s : Supply) : Except TemplateError (String × Supply) := do
  let s ← s.select p.source
  let (width, s) ← lengthOf 0x8000000000000000 .wide s p.width
  let (precision, s) ← lengthOf 0x80000000 .precise s p.precision
  match p.kind with
  | none => .error .unfinished
  | some kind =>
    let (value, s) ← s.next
    -- a negative width sets the value on the left
    let flags := if width.any (· < 0) then '-' :: p.flags else p.flags
    let shown ← shownAs kind p.kindAt flags (precision.map Int.toNat) value
    let width := (width.getD 0).natAbs
    if longest < width then .error .tooLong else .ok (shown.set flags width, s)

/-- The pieces with their places filled. -/
def fillPieces : List Piece → Supply → Except TemplateError String
  | [], s => if s.isUnused then .error .mismatch else .ok ""
  | .text c :: rest, s => (fillPieces rest s).map (String.singleton c ++ ·)
  | .place p :: rest, s => do
    let (here, s) ← fillPlace p s
    (fillPieces rest s).map (here ++ ·)

/-- The template with its places filled. -/
def fillFrom (template : String) (s : Supply) : Except TemplateError String :=
  fillPieces (pieces template) s

/-- The message of a template and values in order; without values it is taken as it is. -/
def fill (template : String) (values : List Json) : Except TemplateError String :=
  if values.isEmpty then .ok template else fillFrom template (.ofValues values)

end Template

end RetrievalTelemetry
