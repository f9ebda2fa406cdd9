/-
Files with variables for the environment.

Every line gives a name and, behind an equals sign, a value, which may stand between quotes and
then run over several lines.  A line that is not of this form is passed over.  A value may name
variables in braces behind a dollar sign; they stand for what the environment says, or else for
what an earlier line says, or else for a value given with them.

Variables that the environment already has are left as they are.
-/
import RetrievalTelemetry.Json.Value
import RetrievalTelemetry.Text.Blank
import RetrievalTelemetry.Text.LetterCase
import RetrievalTelemetry.Text.LineBreak
import RetrievalTelemetry.Text.Search

namespace RetrievalTelemetry.EnvironmentFile

/-- What was read and the rest, or the rest at the place where reading failed. -/
abbrev Reading (α : Type) := Except (List Char) (α × List Char)

/-- Whether `c` is white space inside a line. -/
def isGap (c : Char) : Bool := Text.isBlank c && c ≠ '\n'

/-- Drops white space inside a line. -/
def skipGap (cs : List Char) : List Char := cs.dropWhile isGap

/-- Drops the rest of the line and its end. -/
def skipLine (cs : List Char) : List Char := (cs.dropWhile (· ≠ '\n')).drop 1

/-- Drops the word for passing a variable on, if a name follows it. -/
def skipExport (cs : List Char) : List Char :=
  let word := "export".toList
  let rest := cs.drop word.length
  if word.isPrefixOf cs && rest.head?.any isGap then skipGap rest else cs

/-- The text up to a closing quote.  What follows a backslash in the same line does not close. -/
def closing (quote : Char) : List Char → Option (List Char × List Char)
  | [] => none
  | ['\\'] => none
  | '\\' :: c :: rest =>
    if c = '\n' then none else (closing quote rest).map fun read => ('\\' :: c :: read.1, read.2)
  | c :: rest =>
    if c = quote then some ([], rest) else (closing quote rest).map fun read => (c :: read.1, read.2)

/-- The characters that escapes stand for between single quotes. -/
def singleEscapes : List (Char × Char) := [('\\', '\\'), ('\x27', '\x27')]

/-- The characters that escapes stand for between double quotes. -/
def doubleEscapes : List (Char × Char) :=
  singleEscapes ++ [('\x22', '\x22'), ('a', '\x07'), ('b', '\x08'), ('f', '\x0c'), ('n', '\n'), ('r', '\r'),
    ('t', '\t'), ('v', '\x0b')]

/-- A text with its escapes replaced. -/
def unescaped (escapes : List (Char × Char)) : List Char → List Char
  | '\\' :: c :: rest =>
    match escapes.lookup c with
    | some meant => meant :: unescaped escapes rest
    | none => '\\' :: unescaped escapes (c :: rest)
  | c :: rest => c :: unescaped escapes rest
  | [] => []

/-- Drops a comment, which begins with a number sign behind white space. -/
def withoutComment : List Char → List Char
  | [] => []
  | c :: rest =>
    if Text.isBlank c && (rest.dropWhile Text.isBlank).head? = some '#' then [] else c :: withoutComment rest

/-- The name of a variable; a comment has none. -/
def name : List Char → Reading (Option String)
  | '#' :: rest => .ok (none, '#' :: rest)
  | '\x27' :: rest =>
    let text := rest.takeWhile (· ≠ '\x27')
    let behind := rest.drop text.length
    if text.isEmpty || behind.isEmpty then .error ('\x27' :: rest)
    else .ok (some (String.ofList text), behind.drop 1)
  | cs =>
    let text := cs.takeWhile fun c => c ≠ '=' && c ≠ '#' && !Text.isBlank c
    if text.isEmpty then .error cs else .ok (some (String.ofList text), cs.drop text.length)

/-- A value, which may stand behind white space.  A comment directly behind white space leaves nothing for
the value. -/
def value (cs : List Char) : Reading String :=
  match skipGap cs with
  | '\x27' :: rest => quoted '\x27' singleEscapes rest
  | '\x22' :: rest => quoted '\x22' doubleEscapes rest
  | behind =>
    let text := (if behind.head? = some '#' then cs else behind).takeWhile (· ≠ '\n')
    let cs := if behind.head? = some '#' then cs else behind
    let shown := ((withoutComment text).reverse.dropWhile Text.isBlank).reverse
    .ok (String.ofList shown, cs.drop text.length)
where
  /-- A value between quotes, behind the first one. -/
  quoted (quote : Char) (escapes : List (Char × Char)) (rest : List Char) : Reading String :=
    match closing quote rest with
    | some (text, rest) => .ok (String.ofList (unescaped escapes text), rest)
    | none => .error (quote :: rest)

/-- The rest behind a comment and the end of the line. -/
def lineEnd (cs : List Char) : Except (List Char) (List Char) :=
  match skipGap cs with
  | [] => .ok []
  | '\n' :: rest => .ok rest
  | '#' :: rest => .ok (skipLine rest)
  | _ => .error cs

/-- A variable with its value, if it has one. -/
def assignment? (cs : List Char) : Except (List Char) (Option (String × Option String) × List Char) := do
  let (named, rest) ← name (skipExport cs)
  let (given, rest) ← match skipGap rest with
    | '=' :: rest => (value rest).map fun read => (some read.1, read.2)
    | rest => .ok (none, rest)
  let rest ← lineEnd rest
  .ok (named.map fun n => (n, given), rest)

/-- The variables of a text.  Every step passes at least a line or a name, so the length of the text
is enough fuel. -/
def assignments : (fuel : Nat) → List Char → List (String × Option String)
  | 0, _ => []
  | fuel + 1, cs =>
    let cs := cs.dropWhile Text.isBlank
    if cs.isEmpty then []
    else
      match assignment? cs with
      | .ok (found, rest) => found.toList ++ assignments fuel rest
      | .error rest => assignments fuel (skipLine rest)

/-- What stands for a variable in a value. -/
def lookup (known : List (String × String)) (name : List Char) (other : List Char) : List Char :=
  ((known.lookup (String.ofList name)).map String.toList).getD other

/-- A reference to a variable behind its opening brace: the name, the value to take without one, and the
rest. -/
def reference? (cs : List Char) : Option (List Char × List Char × List Char) :=
  let name := cs.takeWhile fun c => c ≠ '\x7d' && c ≠ ':'
  match cs.drop name.length with
  | '\x7d' :: rest => some (name, [], rest)
  | ':' :: '-' :: rest =>
    let other := rest.takeWhile (· ≠ '\x7d')
    match rest.drop other.length with
    | _ :: rest => some (name, other, rest)
    | [] => none
  | _ => none

/-- A value with the variables that it names filled in. -/
def filled (known : List (String × String)) : (fuel : Nat) → List Char → List Char
  | 0, cs => cs
  | _, [] => []
  | fuel + 1, '$' :: '\x7b' :: rest =>
    match reference? rest with
    | some (name, other, rest) => lookup known name other ++ filled known fuel rest
    | none => '$' :: filled known fuel ('\x7b' :: rest)
  | fuel + 1, c :: rest => c :: filled known fuel rest

/-- The values of variables in an environment, each one with the earlier ones filled in; a name without
a value counts as empty there. -/
def resolve (environment : List (String × String)) :
    (known : List (String × String)) → List (String × Option String) → List (String × Option String)
  | _, [] => []
  | known, (name, given) :: rest =>
    let value := given.map fun v =>
      String.ofList (filled (environment ++ known) (v.length + 1) v.toList)
    (name, value) :: resolve environment ((name, value.getD "") :: known) rest

/-- Whether a variable can be put into the environment: its name has no equals sign, and nothing has a
null character. -/
def isUsable (v : String × String) : Bool :=
  !(v.1.toList.contains '=' || v.1.toList.contains '\x00' || v.2.toList.contains '\x00')

/-- The words, in any case, that keep files from being loaded. -/
def refusals : List String := ["1", "TRUE", "T", "YES", "Y"]

/-- The variable that keeps files from being loaded. -/
def refusalVariable : String := "PYTHON_DOTENV_DISABLED"

/-- Whether the environment keeps files from being loaded. -/
def isRefused (environment : List (String × String)) : Bool :=
  (environment.lookup refusalVariable).any fun value => refusals.contains (Text.inCapitals value)

/-- The environment with the variables of a file, none of which replaces one that is there; none if one of
them cannot be put there.  A byte order mark does not belong to the text. -/
def load? (environment : List (String × String)) (text : String) : Option (List (String × String)) :=
  let cs := Text.unifyBreaks (match text.toList with
    | '\uFEFF' :: rest => rest
    | cs => cs)
  let found := resolve environment [] (assignments (cs.length + 1) cs)
  let added := ((settleFields found).filterMap fun v => v.2.map fun value => (v.1, value)).filter fun v =>
    (environment.lookup v.1).isNone
  if isRefused environment then some environment
  else if added.all isUsable then some (environment ++ added)
  else none

end RetrievalTelemetry.EnvironmentFile
