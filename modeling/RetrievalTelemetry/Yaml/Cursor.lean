/-
Places in a YAML text.

The layout of a text carries its meaning: what is nested is further to the right, and a key
and its colon stand on one line.  So a cursor knows, besides the text that is left, the line
and the column it has come to.
-/
namespace RetrievalTelemetry.Yaml

/-- Whether `c` ends a line. -/
def isBreak (c : Char) : Bool :=
  c = '\n' || c = '\x85' || c = '\u2028' || c = '\u2029'

/-- Whether `c` is a space, a tab or the end of a line. -/
def isSpacing (c : Char) : Bool := c = ' ' || c = '\t' || isBreak c

/-- Whether nothing follows, or something that sets apart what stands before it. -/
def isSetApart : List Char → Bool
  | [] => true
  | c :: _ => isSpacing c

/-- Whether nothing follows, or a space or the end of a line; a tab does not end everything. -/
def isAtGap : List Char → Bool
  | [] => true
  | c :: _ => c = ' ' || isBreak c

/-- A place in a text. -/
structure Cursor where
  /-- The text from here on. -/
  rest : List Char
  line : Nat := 0
  column : Nat := 0
  /-- The number of characters before this place. -/
  index : Nat := 0
deriving Repr

namespace Cursor

/-- The mark at the beginning of a text, which takes no room on a line. -/
def byteOrderMark : Char := '\uFEFF'

/-- The place behind a character `ch` that stands here. -/
def past (c : Cursor) (ch : Char) (rest : List Char) : Cursor :=
  { rest := rest
    line := if isBreak ch then c.line + 1 else c.line
    column := if isBreak ch then 0 else if ch = byteOrderMark then c.column else c.column + 1
    index := c.index + 1 }

/-- The next place. -/
def next (c : Cursor) : Cursor :=
  match c.rest with
  | [] => c
  | ch :: rest => c.past ch rest

/-- The place a number of characters further. -/
def skip : (count : Nat) → Cursor → Cursor
  | 0, c => c
  | count + 1, c => skip count c.next

/-- The place behind all that stands here and satisfies `p`. -/
def skipWhile (p : Char → Bool) : (text : List Char) → Cursor → Cursor
  | [], c => c
  | ch :: rest, c => if p ch then skipWhile p rest (c.past ch rest) else c

/-- The place of the next token: past spaces, comments and ends of lines. -/
def skipBlank : (inComment : Bool) → (text : List Char) → Cursor → Cursor
  | _, [], c => c
  | true, ch :: rest, c => skipBlank (!isBreak ch) rest (c.past ch rest)
  | false, ch :: rest, c =>
    if ch = ' ' || isBreak ch then skipBlank false rest (c.past ch rest)
    else if ch = '#' then skipBlank true rest (c.past ch rest)
    else c

/-- The next token. -/
def token (c : Cursor) : Cursor := skipBlank false c.rest c

/-- Whether a line with a mark of three characters `ch` begins here. -/
def atMark (ch : Char) (c : Cursor) : Bool :=
  c.column = 0 && [ch, ch, ch].isPrefixOf c.rest && isSetApart (c.rest.drop 3)

/-- Whether a document begins here. -/
def atStart (c : Cursor) : Bool := c.atMark '-'

/-- Whether a document is said to end here. -/
def atStop (c : Cursor) : Bool := c.atMark '.'

/-- The characters here that satisfy `p`, and the place behind them. -/
def span (p : Char → Bool) (c : Cursor) : List Char × Cursor :=
  let stop := skipWhile p c.rest c
  (c.rest.take (stop.index - c.index), stop)

/-- The character here. -/
def head? (c : Cursor) : Option Char := c.rest.head?

end Cursor

end RetrievalTelemetry.Yaml
