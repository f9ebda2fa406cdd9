/-
Finding the tokens of a text by its layout.

All entries of a block collection begin in the same column, and what belongs to an entry stands
further right; only a sequence below a key may begin in the column of its key.  Flow collections
stand between brackets and may be laid out freely.

A key and its colon stand on one line, at most 1024 characters apart.  That something is a key is
known only at its colon, so the beginnings of what may be one are kept, one for each collection
that is open.

Every step passes a character, so the length of the text is fuel enough.
-/
import RetrievalTelemetry.Text.LineBreak
import RetrievalTelemetry.Yaml.ScalarText
import RetrievalTelemetry.Yaml.Token

namespace RetrievalTelemetry.Yaml

/-- The beginning of what may be a key. -/
structure KeyStart where
  /-- The number of tokens before it. -/
  count : Nat
  place : Cursor
  /-- Whether it must be a key, because the entries of a block mapping begin in its column. -/
  required : Bool

/-- The most characters between the beginning of a key and its colon. -/
def maxKeyLength : Nat := 1024

/-- What is known of a text up to a place. -/
structure Layout where
  place : Cursor
  /-- The tokens so far, the last one first. -/
  tokens : List Token := []
  /-- How many they are. -/
  count : Nat := 0
  /-- The columns of the block collections that are open, the innermost first. -/
  columns : List Nat := []
  /-- What may be a key, for the block level and each open bracket, the innermost first. -/
  keys : List (Option KeyStart) := [none]
  /-- Whether a key, or a block collection, may begin here. -/
  mayOpen : Bool := true

namespace Layout

/-- Whether the place is inside of brackets. -/
def isFlow (l : Layout) : Bool := 1 < l.keys.length

/-- The column that further lines of a scalar have to reach. -/
def least (l : Layout) : Nat := l.columns.head?.elim 0 (· + 1)

/-- Adds a token behind the first `count` ones. -/
def insert (l : Layout) (t : Token) (count : Nat) : Layout :=
  let later := l.count - count
  { l with tokens := l.tokens.take later ++ t :: l.tokens.drop later, count := l.count + 1 }

/-- Adds a token and goes behind it. -/
def put (l : Layout) (t : Token) (stop : Cursor) : Layout := { l.insert t l.count with place := stop }

/-- Adds a token that a reader has found. -/
def putRead (l : Layout) (read : Token.Read) : Except Fault Layout :=
  read.map fun (t, stop) => l.put t stop

/-! ### Columns -/

/-- Ends the block collections whose columns satisfy `p`, from the innermost on. -/
def dedent (p : Nat → Bool) (l : Layout) : Layout :=
  if l.isFlow then l
  else
    let columns := l.columns.dropWhile p
    let ended := l.columns.length - columns.length
    { l with
      columns := columns, tokens := List.replicate ended .dedent ++ l.tokens, count := l.count + ended }

/-- Begins a block collection in a column, unless one is open there; its token comes behind the first
`count` ones. -/
def indent (l : Layout) (t : Token) (column count : Nat) : Layout :=
  if l.isFlow || l.columns.head?.any (column ≤ ·) then l
  else { l.insert t count with columns := column :: l.columns }

/-! ### Keys -/

/-- Forgets what may be a key here. -/
def dropKey (l : Layout) : Except Fault Layout :=
  if (l.keys.head?.join).any (·.required) then .error .malformed
  else .ok { l with keys := none :: l.keys.drop 1 }

/-- Whether a key cannot reach its colon any more. -/
def isStale (l : Layout) (k : KeyStart) : Bool :=
  k.place.line ≠ l.place.line || maxKeyLength < l.place.index - k.place.index

/-- Forgets the keys that cannot reach their colons any more. -/
def dropStale (l : Layout) : Except Fault Layout :=
  if l.keys.any fun key => key.any fun k => l.isStale k && k.required then .error .malformed
  else .ok { l with keys := l.keys.map fun key => key.filter (!l.isStale ·) }

/-- Keeps this place, if it may be the beginning of a key. -/
def markKey (l : Layout) : Except Fault Layout :=
  if l.mayOpen then
    l.dropKey.map fun l =>
      let start : KeyStart :=
        ⟨l.count, l.place, !l.isFlow && l.columns.head? = some l.place.column⟩
      { l with keys := some start :: l.keys.drop 1 }
  else .ok l

/-! ### Tokens -/

/-- A mark of three characters at the beginning of a line. -/
def documentMark (t : Token) (l : Layout) : Except Fault Layout :=
  (l.dedent fun _ => true).dropKey.map fun l =>
    { l with mayOpen := false }.put t (l.place.skip 3)

/-- An opening bracket. -/
def leftMark (t : Token) (l : Layout) : Except Fault Layout :=
  l.markKey.map fun l => { l with keys := none :: l.keys, mayOpen := true }.put t l.place.next

/-- A closing bracket. -/
def rightMark (t : Token) (l : Layout) : Except Fault Layout :=
  if l.isFlow then .ok ({ l with keys := l.keys.drop 1, mayOpen := false }.put t l.place.next)
  else .error .malformed

def commaMark (l : Layout) : Except Fault Layout :=
  l.dropKey.map fun l => { l with mayOpen := true }.put .comma l.place.next

/-- The mark of an item, of a key, or of a value without a key on its line.  Outside of brackets it may begin
a collection, and then what it marks may begin further ones. -/
def entryMark (collection mark : Token) (l : Layout) : Except Fault Layout :=
  if !l.isFlow && !l.mayOpen then .error .malformed
  else
    (l.indent collection l.place.column l.count).dropKey.map fun l =>
      { l with mayOpen := !l.isFlow || mark == Token.item }.put mark l.place.next

/-- The colon behind a key. -/
def colonMark (l : Layout) : Except Fault Layout :=
  match l.keys.head?.join with
  | none => l.entryMark .openEntries .colon
  | some key =>
    let marked := (l.insert .key key.count).indent .openEntries key.place.column key.count
    .ok ({ marked with keys := none :: l.keys.drop 1, mayOpen := false }.put .colon l.place.next)

/-- A token that may begin a key. -/
def word (read : Cursor → Token.Read) (l : Layout) : Except Fault Layout :=
  l.markKey.bind fun l => { l with mayOpen := false }.putRead (read l.place)

/-- A block scalar; a key may follow it. -/
def blockWord (l : Layout) : Except Fault Layout :=
  l.dropKey.bind fun l =>
    match blockScalar l.least l.place with
    | some (text, stop) => .ok ({ l with mayOpen := true }.put (.scalar false (String.ofList text) false) stop)
    | none => .error .malformed

/-- A quoted scalar. -/
def quotedWord (quote : Char) (c : Cursor) : Token.Read :=
  (quotedScalar quote c).map fun (chars, stop) =>
    (.scalar false (shownText chars) (chars.any Option.isNone), stop)

/-- A plain scalar. -/
def plainWord (flow : Bool) (least : Nat) (c : Cursor) : Token.Read :=
  let (text, stop) := plain flow least c
  .ok (.scalar true (String.ofList text) false, stop)

/-- The next token, at its first character `ch`, in front of `rest`. -/
def token (ch : Char) (rest : List Char) (l : Layout) : Except Fault Layout :=
  let marks := l.isFlow || isSetApart rest
  if ch = '%' && l.place.column = 0 then
    (l.dedent fun _ => true).dropKey.bind fun l => { l with mayOpen := false }.putRead (Token.readDirective l.place)
  else if l.place.atStart then l.documentMark .documentStart
  else if l.place.atStop then l.documentMark .documentStop
  else if ch = '[' then l.leftMark .leftBracket
  else if ch = '\x7b' then l.leftMark .leftBrace
  else if ch = ']' then l.rightMark .rightBracket
  else if ch = '\x7d' then l.rightMark .rightBrace
  else if ch = ',' then l.commaMark
  else if ch = '-' && isSetApart rest then l.entryMark .openItems .item
  else if ch = '?' && marks then l.entryMark .openEntries .key
  else if ch = ':' && marks then l.colonMark
  else if ch = '*' then l.word (Token.readName .alias)
  else if ch = '&' then l.word (Token.readName .anchor)
  else if ch = '!' then l.word Token.readTag
  else if (ch = '|' || ch = '>') && !l.isFlow then l.blockWord
  else if ch = '\x27' || ch = '\x22' then l.word (quotedWord ch)
  else if startsPlain l.isFlow (ch :: rest) then l.word (plainWord l.isFlow l.least)
  else .error .malformed

/-- Goes to the next token; behind the end of a line a block collection may begin. -/
def toToken (l : Layout) : Layout :=
  let next := l.place.token
  { l with place := next, mayOpen := l.mayOpen || (!l.isFlow && next.line ≠ l.place.line) }

/-- Goes to the next token and ends the block collections that it is not part of. -/
def next (l : Layout) : Except Fault Layout :=
  l.toToken.dropStale.map fun l => l.dedent (l.place.column < ·)

/-- The tokens of a text whose rest cannot be read. -/
def failed (l : Layout) (e : Fault) : List Token := (.fault e :: l.tokens).reverse

/-- All tokens, with those from the place on. -/
def finish : (fuel : Nat) → Layout → List Token
  | 0, l => l.tokens.reverse
  | fuel + 1, l =>
    match l.next with
    | .error e => l.failed e
    | .ok here =>
      match here.place.rest with
      | [] =>
        match (here.dedent fun _ => true).dropKey with
        | .error e => here.failed e
        | .ok last => last.tokens.reverse
      | ch :: rest =>
        match here.token ch rest with
        | .error e => here.failed e
        | .ok there => finish fuel there

end Layout

/-- Whether a character may stand in a document. -/
def isAllowed (c : Char) : Bool :=
  let n := c.toNat
  n = 0x9 || n = 0xA || n = 0xD || (0x20 ≤ n && n ≤ 0x7E) || n = 0x85 ||
    (0xA0 ≤ n && n ≤ 0xFFFD) || 0x10000 ≤ n

def Token.ofText (text : String) : List Token :=
  let chars := Text.unifyBreaks text.toList
  if chars.all isAllowed then
    let first : Cursor := { rest := chars }
    let start := if first.head? = some Cursor.byteOrderMark then first.next else first
    Layout.finish (chars.length + 1) { place := start }
  else [.fault .malformed]

end RetrievalTelemetry.Yaml
