/-
The texts of scalars, in the four ways of writing them.

A plain scalar is words with gaps, a quoted one stands between quotes, and both may run over
several lines: then a single end of line counts as a space, and of several the first one is
dropped.  A block scalar is the lines below its mark that are indented far enough.

Readers return the place right behind the last character of the scalar, so that what follows
can be told to be on its line or not.
-/
import RetrievalTelemetry.Text.Encoding
import RetrievalTelemetry.Yaml.Cursor
import RetrievalTelemetry.Yaml.Fault

namespace RetrievalTelemetry.Yaml

/-- A text and the place behind it. -/
abbrev Reading := List Char × Cursor

/-- The character that the end of a line counts as. -/
def breakText (c : Char) : Char := if c = '\x85' then '\n' else c

/-- The ends of lines from here on, with the blanks around them; nothing if a document begins or ends
after one of them. -/
def breaks (tabs : Bool) : (text : List Char) → Cursor → Option Reading
  | [], c => some ([], c)
  | ch :: rest, c =>
    if ch = ' ' || (tabs && ch = '\t') then breaks tabs rest (c.past ch rest)
    else if isBreak ch then
      let next := c.past ch rest
      if next.atStart || next.atStop then none
      else (breaks tabs rest next).map fun read => (breakText ch :: read.1, read.2)
    else some ([], c)

/-- What several ends of lines in a row count as. -/
def folded : List Char → List Char
  | [] => []
  | ['\n'] => [' ']
  | '\n' :: more => more
  | all => all

/-- The blanks from here on, folded if there is an end of line among them. -/
def blanks (tabs : Bool) (c : Cursor) : Option Reading :=
  (breaks tabs c.rest c).map fun read =>
    (if read.1.isEmpty then c.rest.take (read.2.index - c.index) else folded read.1, read.2)

/-! ### Plain scalars -/

/-- The characters that structure flow collections. -/
def flowMarks : List Char := [',', '[', ']', '\x7b', '\x7d']

/-- Whether a word of a plain scalar ends before `ch`. -/
def endsWord (flow : Bool) (ch : Char) (rest : List Char) : Bool :=
  isSpacing ch ||
    (ch = ':' && (isSetApart rest || (flow && rest.head?.any flowMarks.contains))) ||
    (flow && (ch = '?' || flowMarks.contains ch))

/-- The characters that no plain scalar begins with. -/
def reservedMarks : List Char :=
  flowMarks ++ ['#', '&', '*', '!', '|', '>', '\x27', '\x22', '%', '@', '\x60']

/-- Whether a plain scalar begins with `text`. -/
def startsPlain (flow : Bool) : (text : List Char) → Bool
  | [] => false
  | '-' :: rest => !isSetApart rest
  | ch :: rest =>
    if ch = '?' || ch = ':' then !flow && !isSetApart rest
    else !isSpacing ch && !reservedMarks.contains ch

/-- The place behind a word of a plain scalar. -/
def behindWord (flow : Bool) : (text : List Char) → Cursor → Cursor
  | [], c => c
  | ch :: rest, c => if endsWord flow ch rest then c else behindWord flow rest (c.past ch rest)

/-- A word of a plain scalar. -/
def word (flow : Bool) (c : Cursor) : Reading :=
  let stop := behindWord flow c.rest c
  (c.rest.take (stop.index - c.index), stop)

/-- What follows a word: further words, as long as they are not comments and, outside of flow
collections, not further left than the column `least`. -/
def moreWords (flow : Bool) (least : Nat) : (fuel : Nat) → Cursor → Reading
  | 0, c => ([], c)
  | fuel + 1, c =>
    match blanks false c with
    | none => ([], c)
    | some (gap, start) =>
      let next := word flow start
      if gap.isEmpty || start.head? = some '#' || (!flow && start.column < least) || next.1.isEmpty then
        ([], c)
      else
        let more := moreWords flow least fuel next.2
        (gap ++ next.1 ++ more.1, more.2)

/-- A plain scalar. -/
def plain (flow : Bool) (least : Nat) (c : Cursor) : Reading :=
  let first := word flow c
  let more := moreWords flow least first.2.rest.length first.2
  (first.1 ++ more.1, more.2)

/-! ### Quoted scalars -/

/-- The characters that a letter behind a backslash stands for. -/
def escapes : List (Char × Char) :=
  [('0', '\x00'), ('a', '\x07'), ('b', '\x08'), ('t', '\t'), ('\t', '\t'), ('n', '\n'), ('v', '\x0b'),
   ('f', '\x0c'), ('r', '\r'), ('e', '\x1b'), (' ', ' '), ('\x22', '\x22'), ('\\', '\\'), ('/', '/'),
   ('N', '\x85'), ('_', '\xa0'), ('L', '\u2028'), ('P', '\u2029')]

/-- The number of hexadecimal digits behind a letter behind a backslash. -/
def codeWidths : List (Char × Nat) := [('x', 2), ('u', 4), ('U', 8)]

/-- A character between quotes; none for a code that is half of a surrogate pair. -/
abbrev QuotedChar := Option Char

/-- The largest code that can be asked for at all. -/
def maxCode : Nat := 0x7FFFFFFF

/-- The character with the code that hexadecimal digits give. -/
def codeChar (width : Nat) (digits : List Char) : Except Fault QuotedChar :=
  match digits.mapM Text.hexDigit? with
  | none => .error .malformed
  | some values =>
    let code := values.foldl (fun n d => 16 * n + d) 0
    if values.length < width then .error .malformed
    else if Text.isSurrogate code then .ok none
    else if code.isValidChar then .ok (some (Char.ofNat code))
    else .error (if maxCode < code then .tooLarge else .codeTooLarge)

/-- What a backslash and the characters behind it stand for. -/
def escape (c : Cursor) : Except Fault (List QuotedChar × Cursor) :=
  match c.rest with
  | [] => .error .malformed
  | ch :: rest =>
    match escapes.lookup ch, codeWidths.lookup ch with
    | some meant, _ => .ok ([some meant], c.next)
    | none, some width => (codeChar width (rest.take width)).map fun meant => ([meant], c.next.skip width)
    | none, none =>
      match (if isBreak ch then breaks true c.rest c else none) with
      | some (read, next) => .ok ((read.drop 1).map some, next)
      | none => .error .malformed

/-- The text up to the closing quote, which is then passed; `read` is what comes before, the last character
first. -/
def quotedText (quote : Char) (read : List QuotedChar) :
    (fuel : Nat) → Cursor → Except Fault (List QuotedChar × Cursor)
  | 0, _ => .error .malformed
  | fuel + 1, c =>
    match c.rest with
    | [] => .error .malformed
    | ch :: rest =>
      if ch = quote then
        if quote = '\x27' && rest.head? = some quote then quotedText quote (some quote :: read) fuel (c.skip 2)
        else .ok (read.reverse, c.next)
      else if ch = '\\' && quote = '\x22' then
        match escape c.next with
        | .error e => .error e
        | .ok (meant, next) => quotedText quote (meant.reverse ++ read) fuel next
      else if isSpacing ch then
        match blanks true c with
        | none => .error .malformed
        | some (gap, next) => quotedText quote ((gap.map some).reverse ++ read) fuel next
      else quotedText quote (some ch :: read) fuel c.next

/-- A quoted scalar, at its opening quote. -/
def quotedScalar (quote : Char) (c : Cursor) : Except Fault (List QuotedChar × Cursor) :=
  quotedText quote [] (c.rest.length + 1) c.next

/-- A quoted text as it is shown: each byte of a code that is no character counts as one that cannot be
read. -/
def shownText (cs : List QuotedChar) : String :=
  String.ofList (cs.flatMap fun c => c.elim (List.replicate 3 Text.replacement) fun c => [c])

/-! ### Block scalars -/

/-- What becomes of the ends of lines at the end of a block scalar. -/
inductive Chomping where
  /-- All are dropped. -/
  | strip
  /-- One stays. -/
  | clip
  /-- All stay. -/
  | keep
deriving DecidableEq, Repr

/-- The chomping that a sign asks for. -/
def Chomping.ofSign? (ch : Char) : Option Chomping :=
  if ch = '+' then some keep else if ch = '-' then some strip else none

/-- The head of a block scalar behind its mark: the chomping and the indentation, if it is given, and the
place behind both. -/
def blockHead (c : Cursor) : Chomping × Option Nat × Cursor :=
  let sign (c : Cursor) : Option Chomping := c.head?.bind Chomping.ofSign?
  let indentation (c : Cursor) : Option Nat := c.head?.bind Text.asciiDigit?
  match sign c, indentation c with
  | some chomping, _ =>
    match indentation c.next with
    | some n => (chomping, some n, c.skip 2)
    | none => (chomping, none, c.next)
  | none, some n =>
    match sign c.next with
    | some chomping => (chomping, some n, c.skip 2)
    | none => (.clip, some n, c.next)
  | none, none => (.clip, none, c)

/-- Passes ends of lines, and spaces up to a column. -/
def emptyLines (indent : Nat) : (text : List Char) → Cursor → Reading
  | [], c => ([], c)
  | ch :: rest, c =>
    if ch = ' ' && c.column < indent then emptyLines indent rest (c.past ch rest)
    else if isBreak ch then
      let read := emptyLines indent rest (c.past ch rest)
      (breakText ch :: read.1, read.2)
    else ([], c)

/-- The furthest column that spaces lead to before the first line with something else. -/
def deepest : (text : List Char) → Cursor → Nat
  | [], c => c.column
  | ch :: rest, c =>
    if ch = ' ' || isBreak ch then max c.column (deepest rest (c.past ch rest)) else c.column

/-- The lines of a block scalar. -/
structure BlockLines where
  text : List Char := []
  /-- The end of the last line. -/
  last : List Char := []
  /-- The ends of empty lines behind it. -/
  trailing : List Char := []
  /-- The place behind the text. -/
  stop : Cursor

/-- Whether a line begins with a blank. -/
def startsBlank (line : List Char) : Bool := line.head?.any fun ch => ch = ' ' || ch = '\t'

/-- The lines of a block scalar from a line on. -/
def blockLines (fold : Bool) (indent : Nat) : (fuel : Nat) → Cursor → BlockLines
  | 0, c => { stop := c }
  | fuel + 1, c =>
    let stop := Cursor.skipWhile (!isBreak ·) c.rest c
    let line := c.rest.take (stop.index - c.index)
    match stop.rest with
    | [] => { text := line, stop := stop }
    | ch :: rest =>
      let (empty, next) := emptyLines indent rest (stop.past ch rest)
      if next.column = indent && !next.rest.isEmpty then
        let joint :=
          if fold && breakText ch = '\n' && !startsBlank line && !startsBlank next.rest then
            (if empty.isEmpty then [' '] else [])
          else [breakText ch]
        let more := blockLines fold indent fuel next
        { more with text := line ++ joint ++ empty ++ more.text }
      else { text := line, last := [breakText ch], trailing := empty, stop := stop }

/-- A block scalar, at its mark. -/
def blockScalar (least : Nat) (c : Cursor) : Option Reading :=
  let (chomping, given, c') := blockHead c.next
  let spaced := Cursor.skipWhile (· = ' ') c'.rest c'
  let stop := if spaced.head? = some '#' then Cursor.skipWhile (!isBreak ·) spaced.rest spaced else spaced
  let below := stop.next
  let bottom := max least 1
  if given = some 0 || !isAtGap c'.rest || !stop.rest.isEmpty && !stop.head?.any isBreak then none
  else
    let indent := match given with
      | some n => bottom + n - 1
      | none => max bottom (deepest below.rest below)
    let (empty, start) := emptyLines (if given.isSome then indent else below.rest.length + 1) below.rest below
    let lines : BlockLines :=
      if start.column = indent && !start.rest.isEmpty then
        let lines := blockLines (c.head? = some '>') indent start.rest.length start
        { lines with text := empty ++ lines.text }
      else { trailing := empty, stop := stop }
    some (lines.text ++ (if chomping = .strip then [] else lines.last) ++
      (if chomping = .keep then lines.trailing else []), lines.stop)

end RetrievalTelemetry.Yaml
