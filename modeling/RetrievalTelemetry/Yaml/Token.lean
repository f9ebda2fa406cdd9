/-
The smallest pieces of a YAML document: marks, scalars, and the names and tags in front of them.

The layout of block collections is made explicit: their beginnings and ends are tokens too, as
is the beginning of every key.

This module has the tokens and the readers of those that consist of names: directives, anchors,
aliases and tags.  Names and handles are in ASCII; other characters of tags are escaped by
percent signs.
-/
import RetrievalTelemetry.Text.Encoding
import RetrievalTelemetry.Yaml.Cursor
import RetrievalTelemetry.Yaml.Fault

namespace RetrievalTelemetry.Yaml

/-- What is said about a document in front of it. -/
inductive Directive where
  | version (major : Nat)
  /-- What the tags with a handle begin with. -/
  | handle (handle lead : String)
  | other
deriving DecidableEq, Repr

/-- A piece of a document. -/
inductive Token where
  | directive (content : Directive)
  | documentStart
  | documentStop
  /-- The beginning of a block sequence. -/
  | openItems
  /-- The beginning of a block mapping. -/
  | openEntries
  /-- The end of a block collection. -/
  | dedent
  | leftBracket
  | rightBracket
  | leftBrace
  | rightBrace
  | comma
  /-- The mark of an item of a sequence. -/
  | item
  /-- The beginning of a key. -/
  | key
  /-- The mark between a key and its value. -/
  | colon
  | anchor (name : String)
  | alias (name : String)
  /-- A tag: a handle, unless it is written whole, and what comes behind. -/
  | tag (handle : Option String) (suffix : String)
  /-- A scalar; `shown` is its text, with replacements if some of its codes are no characters. -/
  | scalar (isPlain : Bool) (shown : String) (isGarbled : Bool)
  /-- There are no more tokens, because the text is no YAML. -/
  | fault (error : Fault)
deriving DecidableEq, Repr

namespace Token

/-- A token and the place behind it. -/
abbrev Read := Except Fault (Token × Cursor)

/-- Whether `c` may be part of a name. -/
def isNameChar (c : Char) : Bool := c.isAlphanum || c = '-' || c = '_'

/-- The place behind spaces. -/
def behindSpaces (c : Cursor) : Cursor := Cursor.skipWhile (· = ' ') c.rest c

/-! ### Anchors and aliases -/

/-- The characters that may follow a name at once. -/
def nameEnds : List Char := ['?', ':', ',', ']', '\x7d', '%', '@', '\x60']

/-- The name behind the mark of an anchor or alias. -/
def readName (make : String → Token) (c : Cursor) : Read :=
  let (name, stop) := c.next.span isNameChar
  if name.isEmpty || !(isSetApart stop.rest || stop.head?.any nameEnds.contains) then .error .malformed
  else .ok (make (String.ofList name), stop)

/-! ### Tags -/

/-- Whether `c` may be part of what stands behind a handle. -/
def isTagChar (c : Char) : Bool :=
  c.isAlphanum ||
    ['-', ';', '/', '?', ':', '@', '&', '=', '+', '$', ',', '_', '.', '!', '~', '*', '\x27', '(', ')', '[',
     ']', '%'].contains c

/-- The characters of which some are escaped; `bytes` are the escaped ones right in front. -/
def unescaped (bytes : List UInt8) : List Char → Option (List Char)
  | '%' :: a :: b :: rest =>
    match Text.hexDigit? a, Text.hexDigit? b with
    | some m, some n => unescaped (bytes ++ [UInt8.ofNat (16 * m + n)]) rest
    | _, _ => none
  | '%' :: _ => none
  | c :: rest => do
    let read ← String.fromUTF8? ⟨bytes.toArray⟩
    let more ← unescaped [] rest
    some (read.toList ++ c :: more)
  | [] => (String.fromUTF8? ⟨bytes.toArray⟩).map String.toList

/-- What stands behind a handle. -/
def readSuffix (c : Cursor) : Except Fault (String × Cursor) :=
  let (chars, stop) := c.span isTagChar
  match if chars.isEmpty then none else unescaped [] chars with
  | some suffix => .ok (String.ofList suffix, stop)
  | none => .error .malformed

/-- A handle: one exclamation mark in front of a space, or two with a name between them. -/
def readHandle (c : Cursor) : Except Fault (String × Cursor) :=
  match c.rest with
  | '!' :: ' ' :: _ => .ok ("!", c.next)
  | '!' :: _ =>
    let (name, stop) := c.next.span isNameChar
    if stop.head? = some '!' then .ok ("!" ++ String.ofList name ++ "!", stop.next) else .error .malformed
  | _ => .error .malformed

/-- A tag.  A second exclamation mark ends a handle; without one the first is all of it. -/
def readTag (c : Cursor) : Read := do
  let behind := c.rest.drop 1
  let (handle, suffix, stop) ←
    if behind.head? = some '<' then do
      let (suffix, stop) ← readSuffix (c.skip 2)
      if stop.head? = some '>' then .ok (none, suffix, stop.next) else .error .malformed
    else if isSetApart behind then .ok (none, "!", c.next)
    else do
      let (handle, next) ←
        if (behind.takeWhile fun ch => !isAtGap [ch]).contains '!' then readHandle c else .ok ("!", c.next)
      let (suffix, stop) ← readSuffix next
      .ok (some handle, suffix, stop)
  if isAtGap stop.rest then .ok (.tag handle suffix, stop) else .error .malformed

/-! ### Directives -/

def readVersionPart (c : Cursor) : Except Fault (Nat × Cursor) :=
  let (digits, stop) := c.span Char.isDigit
  if digits.isEmpty then .error .malformed
  else if Text.maxDigits < digits.length then .error (.numeral (.tooManyDigits digits.length))
  else .ok (Text.decimalValue digits, stop)

/-- A version: two numbers with a point between them. -/
def readVersion (c : Cursor) : Except Fault (Directive × Cursor) := do
  let (major, point) ← readVersionPart (behindSpaces c)
  if point.head? ≠ some '.' then .error .malformed
  else
    let (_, stop) ← readVersionPart point.next
    if isAtGap stop.rest then .ok (.version major, stop) else .error .malformed

/-- A handle and what it stands for. -/
def readHandleLead (c : Cursor) : Except Fault (Directive × Cursor) := do
  let (handle, gap) ← readHandle (behindSpaces c)
  if gap.head? ≠ some ' ' then .error .malformed
  else
    let (lead, stop) ← readSuffix (behindSpaces gap)
    if isAtGap stop.rest then .ok (.handle handle lead, stop) else .error .malformed

/-- The place behind the rest of a line, on which only a comment may stand. -/
def behindComment (c : Cursor) : Except Fault Cursor :=
  let start := behindSpaces c
  let stop := if start.head? = some '#' then (start.span (!isBreak ·)).2 else start
  if stop.rest.isEmpty || stop.head?.any isBreak then .ok stop.next else .error .malformed

/-- A directive, at its percent sign; one with an unknown name may say anything. -/
def readDirective (c : Cursor) : Read := do
  let (name, behind) := c.next.span isNameChar
  if name.isEmpty || !isAtGap behind.rest then .error .malformed
  else
    let (content, stop) ← match String.ofList name with
      | "YAML" => readVersion behind
      | "TAG" => readHandleLead behind
      | _ => .ok (.other, (behind.span (!isBreak ·)).2)
    let next ← behindComment stop
    .ok (.directive content, next)

end Token

end RetrievalTelemetry.Yaml
