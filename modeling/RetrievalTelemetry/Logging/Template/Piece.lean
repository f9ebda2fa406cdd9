/-
The pieces of a template.

A percent sign opens a place for a value; two of them next to each other stand for one.  What
follows the sign says, in this order, under which key the value is found, how it is set (flags, a
width, a precision), and as what kind of value it is shown.  Everything else is text that stands for
itself.
-/
import RetrievalTelemetry.Text.DecimalDigit

namespace RetrievalTelemetry.Template

/-- A width or precision. -/
inductive Length where
  | unset
  | given (n : Nat)
  /-- The next value says how much. -/
  | taken
deriving DecidableEq, Repr

/-- Where the value of a place is found. -/
inductive Source where
  /-- It is the next value. -/
  | next
  | key (name : String)
  /-- A key that is not closed. -/
  | unclosed
deriving DecidableEq, Repr

/-- A place for a value. -/
structure Place where
  source : Source := .next
  flags : List Char := []
  width : Length := .unset
  precision : Length := .unset
  /-- The kind of value; none if the template ends before it. -/
  kind : Option Char := none
  /-- Where in the template the kind stands. -/
  kindAt : Nat := 0
deriving DecidableEq, Repr

/-- A piece of a template. -/
inductive Piece where
  | text (c : Char)
  | place (p : Place)
deriving DecidableEq, Repr

/-- The key up to the parenthesis that closes it, and what follows; `depth` parentheses are open. -/
def keyEnd? : (depth : Nat) → List Char → Option (List Char × List Char)
  | _, [] => none
  | 0, ')' :: rest => some ([], rest)
  | depth, c :: rest =>
    let depth := if c = '(' then depth + 1 else if c = ')' then depth - 1 else depth
    (keyEnd? depth rest).map fun found => (c :: found.1, found.2)

def readSource : List Char → Source × List Char
  | '(' :: rest =>
    match keyEnd? 0 rest with
    | some (name, rest) => (.key (String.ofList name), rest)
    | none => (.unclosed, [])
  | cs => (.next, cs)

/-- A width or precision: digits, or an asterisk for the next value. -/
def readLength : List Char → Length × List Char
  | '*' :: rest => (.taken, rest)
  | cs =>
    let digits := cs.takeWhile Char.isDigit
    (if digits.isEmpty then .unset else .given (Text.decimalValue digits), cs.dropWhile Char.isDigit)

/-- A precision behind its point; without digits it is zero. -/
def readPrecision : List Char → Length × List Char
  | '.' :: rest =>
    match readLength rest with
    | (.unset, rest) => (.given 0, rest)
    | found => found
  | cs => (.unset, cs)

def isFlag (c : Char) : Bool := ['-', '+', ' ', '#', '0'].contains c

/-- Leaves out one letter for the size of a number: it changes nothing. -/
def dropSize : List Char → List Char
  | c :: rest => if ['h', 'l', 'L'].contains c then rest else c :: rest
  | [] => []

/-- The place behind a percent sign, in a template of `size` characters. -/
def readPlace (size : Nat) (cs : List Char) : Place × List Char :=
  let (source, cs) := readSource cs
  let flags := cs.takeWhile isFlag
  let (width, cs) := readLength (cs.dropWhile isFlag)
  let (precision, cs) := readPrecision cs
  let cs := dropSize cs
  (⟨source, flags, width, precision, cs.head?, size - cs.length⟩, cs.drop 1)

/-- The pieces of the last `fuel` characters or fewer of a template; every piece takes one at least. -/
def piecesWithin (size : Nat) : (fuel : Nat) → List Char → List Piece
  | 0, _ => []
  | _, [] => []
  | fuel + 1, '%' :: '%' :: rest => .text '%' :: piecesWithin size fuel rest
  | fuel + 1, '%' :: rest =>
    let (p, rest) := readPlace size rest
    .place p :: piecesWithin size fuel rest
  | fuel + 1, c :: rest => .text c :: piecesWithin size fuel rest

def pieces (template : String) : List Piece :=
  piecesWithin template.length template.length template.toList

end RetrievalTelemetry.Template
