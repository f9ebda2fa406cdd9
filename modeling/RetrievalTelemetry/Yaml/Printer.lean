/-
Writing sections of settings as YAML.

A text is written plain if it reads back as that text, otherwise between single quotes, and
between double quotes if it has characters that only escapes can show.  A line that has grown
past its width ends at the next single space.
-/
import RetrievalTelemetry.Yaml.ScalarText
import RetrievalTelemetry.Yaml.Tag

namespace RetrievalTelemetry.Yaml

/-- The column that a line should not grow past. -/
def lineWidth : Nat := 80

/-- A text that is being written, with its column. -/
structure Written where
  text : String := ""
  column : Nat

namespace Written

/-- Writes on the same line. -/
def put (w : Written) (s : String) : Written := ⟨w.text ++ s, w.column + s.length⟩

/-- Begins a new line with an indentation. -/
def newline (w : Written) (indent : Nat) : Written :=
  ⟨w.text ++ "\n" ++ String.ofList (List.replicate indent ' '), indent⟩

end Written

/-! ### Which way to write a text -/

/-- Whether a text has a character that only an escape can show. -/
def needsEscapes (cs : List Char) : Bool :=
  cs.any fun c => !(c = '\n' || (0x20 ≤ c.toNat && c.toNat ≤ 0x7E))

/-- Whether a space and the end of a line stand side by side. -/
def hasLooseSpace : List Char → Bool
  | c :: d :: rest => (c = ' ' && isBreak d) || (isBreak c && d = ' ') || hasLooseSpace (d :: rest)
  | _ => false

/-- Whether a mark inside a text would be taken for structure: a colon before a gap, or a number sign
behind one. -/
def hasMark : (gapBefore : Bool) → List Char → Bool
  | _, [] => false
  | gapBefore, c :: rest =>
    (c = ':' && isSetApart rest) || (c = '#' && gapBefore) || hasMark (isSpacing c) rest

/-- Whether a text can be written plain. -/
def isPlainText (s : String) : Bool :=
  let cs := s.toList
  Tag.ofPlain s = .text && startsPlain false cs && !needsEscapes cs && !cs.any isBreak && cs.getLast? ≠ some ' ' &&
    !hasMark true cs && !(["---", "..."].contains (String.ofList (cs.take 3)))

/-! ### Plain and single quotes -/

/-- The characters of a word between single quotes. -/
def singleQuoted (word : List Char) : String :=
  String.ofList (word.flatMap fun c => if c = '\x27' then [c, c] else [c])

/-- Writes runs of words, spaces and ends of lines. -/
def putRuns (indent : Nat) (encode : List Char → String) : (isFirst : Bool) → List (List Char) → Written → Written
  | _, [], w => w
  | isFirst, run :: rest, w =>
    let next :=
      if run = [' '] && lineWidth < w.column && !isFirst && !rest.isEmpty then w.newline indent
      else if run.head?.any isBreak then
        let ends := (if run.head? = some '\n' then ['\n'] else []) ++ run
        Written.mk (w.text ++ String.ofList (ends ++ List.replicate indent ' ')) indent
      else w.put (encode run)
    putRuns indent encode false rest next

/-- Whether two characters belong to one run. -/
def sameRun (c d : Char) : Bool := (c = ' ') = (d = ' ') && isBreak c = isBreak d

/-- Writes a text between single quotes. -/
def putSingleQuoted (indent : Nat) (s : String) (w : Written) : Written :=
  (putRuns indent singleQuoted true (s.toList.splitBy sameRun) (w.put "'")).put "'"

/-! ### Double quotes -/

/-- The letters behind a backslash, for the characters that have one. -/
def escapeLetters : List (Char × String) :=
  [('\x00', "0"), ('\x07', "a"), ('\x08', "b"), ('\t', "t"), ('\n', "n"), ('\x0b', "v"), ('\x0c', "f"),
   ('\r', "r"), ('\x1b', "e"), ('\x22', "\x22"), ('\\', "\\"), ('\x85', "N"), ('\xa0', "_"),
   ('\u2028', "L"), ('\u2029', "P")]

/-- The escape of a character, if it has to be escaped. -/
def escapeOf? (c : Char) : Option String :=
  match escapeLetters.lookup c with
  | some letter => some ("\\" ++ letter)
  | none =>
    if 0x20 ≤ c.toNat && c.toNat ≤ 0x7E then none
    else
      let digits (width : Nat) : String := (Text.hexText width c.toNat).map Char.toUpper
      some (if c.toNat ≤ 0xFF then "\\x" ++ digits 2
        else if c.toNat ≤ 0xFFFF then "\\u" ++ digits 4
        else "\\U" ++ digits 8)

/-- Breaks a line between double quotes before `rest`. -/
def breakQuoted (indent : Nat) (rest : List Char) (w : Written) : Written :=
  let w := (w.put "\\").newline indent
  if rest.head? = some ' ' then w.put "\\" else w

/-- Writes characters between double quotes; a line breaks before a space and beside an escape. -/
def putEscaped (indent : Nat) : (isFirst afterEscape : Bool) → List Char → Written → Written
  | _, _, [], w => w
  | isFirst, afterEscape, c :: rest, w =>
    let inner := !isFirst && !rest.isEmpty
    match escapeOf? c with
    | some escape =>
      let w := w.put escape
      putEscaped indent false true rest
        (if inner && lineWidth < w.column - 1 then breakQuoted indent rest w else w)
    | none =>
      let w := if inner && (c = ' ' || afterEscape) && lineWidth < w.column then
          breakQuoted indent (c :: rest) w
        else w
      putEscaped indent false false rest (w.put (String.singleton c))

/-- Writes a text between double quotes. -/
def putDoubleQuoted (indent : Nat) (s : String) (w : Written) : Written :=
  (putEscaped indent true false s.toList (w.put "\x22")).put "\x22"

/-! ### Sections -/

def putText (indent : Nat) (s : String) (w : Written) : Written :=
  let cs := s.toList
  if isPlainText s then putRuns indent String.ofList true (cs.splitBy sameRun) w
  else if needsEscapes cs || hasLooseSpace cs then putDoubleQuoted indent s w
  else putSingleQuoted indent s w

/-- Writes a single value. -/
def putAtom (indent : Nat) (w : Written) : Atom → Written
  | .null => w.put "null"
  | .bool b => w.put (if b then "true" else "false")
  | .number n => w.put (n.render .yaml)
  | .text s => putText indent s w
  | other => putText indent other.step w

/-- The line of an entry of a section. -/
def entryLine (entry : String × Atom) : String :=
  let head := "  " ++ entry.1 ++ ": "
  head ++ (putAtom 4 ⟨"", head.length⟩ entry.2).text ++ "\n"

def renderSections (sections : List (String × List (String × Atom))) : String :=
  String.join (sections.map fun part => part.1 ++ ":\n" ++ String.join (part.2.map entryLine))

end RetrievalTelemetry.Yaml
