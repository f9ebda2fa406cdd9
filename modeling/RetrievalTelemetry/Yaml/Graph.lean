/-
Documents as graphs: their parts, and which of them lie in which.

A part that has an anchor may stand in several places, even inside of itself, because aliases
stand for it; so parts are known by their numbers, and a collection holds numbers.

Each text has at most one document.  Parts lie at most 490 levels deep in each other.
-/
import RetrievalTelemetry.Yaml.Tag
import RetrievalTelemetry.Yaml.Token.Layout

namespace RetrievalTelemetry.Yaml

/-- What a part of a document holds. -/
inductive Content where
  /-- A text as it is shown, and whether some of its codes are no characters. -/
  | scalar (shown : String) (isGarbled : Bool)
  | sequence (items : List Nat)
  | mapping (entries : List (Nat × Nat))
deriving Repr

/-- A part of a document. -/
structure Part where
  tag : Tag
  content : Content
deriving Repr

/-- A document. -/
structure Graph where
  parts : Array Part
  root : Nat
deriving Repr

namespace Graph

/-- What is read of a document. -/
structure Outline where
  /-- The tokens that are left. -/
  tokens : List Token
  parts : Array Part := #[]
  /-- The parts with anchors; all of their names are different. -/
  anchors : List (String × Nat) := []

/-- A reader of tokens. -/
abbrev Reader := StateT Outline (Except Fault)

namespace Reader

/-- The next token, which stays. -/
def peek : Reader (Option Token) := do
  match (← get).tokens with
  | .fault e :: _ => throw e
  | t :: _ => pure (some t)
  | [] => pure none

/-- Passes a token. -/
def advance : Reader Unit := modify fun o => { o with tokens := o.tokens.drop 1 }

/-- Whether one of several tokens is next. -/
def isAt (ts : List Token) : Reader Bool := do
  let next ← peek
  pure (next.any ts.contains)

/-- Passes a token, if it is next. -/
def take (t : Token) : Reader Bool := do
  if ← isAt [t] then
    advance
    pure true
  else pure false

/-- Passes a token, which has to be next. -/
def expect (t : Token) : Reader Unit := do
  if !(← take t) then throw .malformed

/-- What a step finds again and again, until it finds nothing. -/
def many {α : Type} (step : Reader (Option α)) : (fuel : Nat) → (found : List α) → Reader (List α)
  | 0, found => pure found.reverse
  | fuel + 1, found => do
    match ← step with
    | none => pure found.reverse
    | some a => many step fuel (a :: found)

/-! ### Parts -/

/-- Adds a part and gives its number. -/
def add (part : Part) : Reader Nat := do
  let o ← get
  set { o with parts := o.parts.push part }
  pure o.parts.size

/-- Adds a part that is left out. -/
def addEmpty : Reader Nat := add ⟨.null, .scalar "" false⟩

def note (anchor : Option String) (part : Nat) : Reader Unit :=
  modify fun o => { o with anchors := (anchor.map fun name => (name, part)).toList ++ o.anchors }

/-- The part that an alias stands for. -/
def aliased (name : String) : Reader Nat := do
  match (← get).anchors.lookup name with
  | some part => pure part
  | none => throw .malformed

/-- Adds a collection, whose content is read when its anchor is known. -/
def addCollection (tag : Tag) (anchor : Option String) (content : Reader Content) : Reader Nat := do
  let part ← add ⟨tag, .sequence []⟩
  note anchor part
  let content ← content
  modify fun o => { o with parts := o.parts.modify part fun p => { p with content } }
  pure part

/-! ### Anchors and tags -/

/-- What stands in front of a part. -/
structure Properties where
  anchor : Option String := none
  tag : Option String := none

/-- The tag that does not say anything. -/
def plainTag : String := "!"

/-- The whole name of a tag. -/
def tagName (handles : List (String × String)) (handle : Option String) (suffix : String) : Reader String :=
  match handle with
  | none => pure suffix
  | some handle =>
    match handles.lookup handle with
    | some lead => pure (lead ++ suffix)
    | none => throw .malformed

/-- An anchor that no part has yet, if one is next. -/
def anchor? : Reader (Option String) := do
  match ← peek with
  | some (.anchor name) =>
    advance
    if ((← get).anchors.lookup name).isSome then throw .malformed
    pure (some name)
  | _ => pure none

/-- A tag, if one is next. -/
def tag? (handles : List (String × String)) : Reader (Option String) := do
  match ← peek with
  | some (.tag handle suffix) =>
    advance
    some <$> tagName handles handle suffix
  | _ => pure none

/-- The anchor and the tag in front of a part, in either order. -/
def properties (handles : List (String × String)) : Reader Properties := do
  match ← anchor? with
  | some anchor => pure ⟨some anchor, ← tag? handles⟩
  | none =>
    match ← tag? handles with
    | some tag => pure ⟨← anchor?, some tag⟩
    | none => pure {}

namespace Properties

def scalarTag (p : Properties) (isPlain : Bool) (text : String) : Tag :=
  match p.tag with
  | none => if isPlain then .ofPlain text else .text
  | some name => if name = plainTag then .ofPlain text else .ofName name

def collectionTag (p : Properties) (usual : Tag) : Tag :=
  match p.tag with
  | none => usual
  | some name => if name = plainTag then usual else .ofName name

end Properties

/-- Adds a scalar with what stands in front of it. -/
def addScalar (p : Properties) (isPlain : Bool) (shown : String) (isGarbled : Bool) : Reader Nat := do
  let part ← add ⟨p.scalarTag isPlain shown, .scalar shown isGarbled⟩
  note p.anchor part
  pure part

/-! ### Collections -/

/-- A part, or an empty one in front of certain tokens. -/
def optional (stops : List Token) (part : Reader Nat) : Reader Nat := do
  if ← isAt stops then addEmpty else part

/-- The value behind a colon; it is empty if there is none. -/
def value (stops : List Token) (part : Reader Nat) : Reader Nat := do
  if ← take .colon then optional stops part else addEmpty

/-- An item of a block sequence. -/
def blockItem (stops : List Token) (part : Reader Nat) : Reader (Option Nat) := do
  if ← take .item then some <$> optional (.item :: stops) part else pure none

/-- An entry of a block mapping. -/
def blockEntry (part : Reader Nat) : Reader (Option (Nat × Nat)) := do
  let stops := [.key, .colon, .dedent]
  if ← take .key then
    let key ← optional stops part
    let value ← value stops part
    pure (some (key, value))
  else pure none

/-- The entry behind the mark of a key in a flow collection. -/
def flowPair (close : Token) (part : Reader Nat) : Reader (Nat × Nat) := do
  let key ← optional [.colon, .comma, close] part
  let value ← value [.comma, close] part
  pure (key, value)

/-- An entry of a flow mapping; what is no key has an empty value. -/
def flowEntry (part : Reader Nat) : Reader (Nat × Nat) := do
  if ← take .key then flowPair .rightBrace part
  else
    let key ← part
    pure (key, ← addEmpty)

/-- The members of a flow collection behind its bracket, with commas between them and perhaps one behind
the last. -/
def flowMembers {α : Type} (close : Token) (member : Reader α) (fuel : Nat) : Reader (List α) := do
  if ← take close then pure []
  else
    let first ← member
    let further : Reader (Option α) := do
      if ← take .comma then
        if ← isAt [close] then pure none else some <$> member
      else pure none
    let rest ← many further fuel []
    expect close
    pure (first :: rest)

end Reader

/-! ### Nodes -/

/-- Where a part stands. -/
inductive Setting where
  | block
  /-- In an entry of a block mapping, where a sequence may begin in the column of its key. -/
  | entry
  | flow
  /-- In a flow sequence, where a key begins a mapping of its own. -/
  | member
deriving DecidableEq, Repr

/-- The most levels of parts that lie in each other. -/
def maxDepth : Nat := 490

open Reader in
/-- A part with all that lies in it, to a depth; `size` is at least the number of tokens. -/
def part (handles : List (String × String)) (size : Nat) : (depth : Nat) → Setting → Reader Nat
  | 0, _ => throw .tooDeep
  | depth + 1, setting => do
    let inner (setting : Setting) : Reader Nat := part handles size depth setting
    let items (stops : List Token) : Reader Content :=
      .sequence <$> many (blockItem stops (inner .block)) size []
    let isEntry ← if setting = .member then take .key else pure false
    if isEntry then
      let entry ← flowPair .rightBracket (inner .flow)
      add ⟨.mapping, .mapping [entry]⟩
    else
      match ← peek with
      | some (.alias name) =>
        advance
        aliased name
      | _ =>
        let p ← properties handles
        let isList ← if setting = .entry then isAt [.item] else pure false
        if isList then
          addCollection (p.collectionTag .sequence) p.anchor (items [.key, .colon, .dedent])
        else
          match ← peek, setting = .block || setting = .entry with
          | some (.scalar isPlain shown isGarbled), _ =>
            advance
            addScalar p isPlain shown isGarbled
          | some .leftBracket, _ =>
            addCollection (p.collectionTag .sequence) p.anchor do
              advance
              .sequence <$> flowMembers .rightBracket (inner .member) size
          | some .leftBrace, _ =>
            addCollection (p.collectionTag .mapping) p.anchor do
              advance
              .mapping <$> flowMembers .rightBrace (flowEntry (inner .flow)) size
          | some .openItems, true =>
            addCollection (p.collectionTag .sequence) p.anchor do
              advance
              let content ← items [.dedent]
              expect .dedent
              pure content
          | some .openEntries, true =>
            addCollection (p.collectionTag .mapping) p.anchor do
              advance
              let entries ← many (blockEntry (inner .entry)) size []
              expect .dedent
              pure (.mapping entries)
          | _, _ =>
            if p.anchor.isSome || p.tag.isSome then addScalar p true "" false else throw .malformed

/-! ### Documents -/

/-- The handles that need no directive. -/
def usualHandles : List (String × String) := [("!", "!"), ("!!", Tag.family)]

/-- The handles that directives in front of a document give, in front of the usual ones.  Each handle and the
version are said once, and the version is the first. -/
def directives (hasVersion : Bool) (handles : List (String × String)) :
    (fuel : Nat) → Reader (List (String × String))
  | 0 => pure (handles ++ usualHandles)
  | fuel + 1 => do
    match ← Reader.peek with
    | some (.directive content) =>
      Reader.advance
      match content with
      | .version major =>
        if hasVersion || major ≠ 1 then throw .malformed
        directives true handles fuel
      | .handle handle lead =>
        if (handles.lookup handle).isSome then throw .malformed
        directives hasVersion ((handle, lead) :: handles) fuel
      | .other => directives hasVersion handles fuel
    | _ => pure (handles ++ usualHandles)

/-- Passes the marks for the end of a document. -/
def stops : (fuel : Nat) → Reader Unit
  | 0 => pure ()
  | fuel + 1 => do
    if ← Reader.take .documentStop then stops fuel

def isDirective : Token → Bool
  | .directive _ => true
  | _ => false

/-- The number of the part that is the whole document; none if there is no document. -/
def document (size : Nat) : Reader (Option Nat) := do
  match ← Reader.peek with
  | none => pure none
  | some first =>
    let root ←
      if isDirective first || first = .documentStart then do
        let handles ← directives false [] size
        Reader.expect .documentStart
        match ← Reader.peek with
        | none => Reader.addEmpty
        | some next =>
          if isDirective next || next = .documentStart || next = .documentStop then Reader.addEmpty
          else part handles size maxDepth .block
      else part usualHandles size maxDepth .block
    stops size
    if (← Reader.peek).isSome then throw .malformed
    pure (some root)

/-- The document that tokens make up, if they do. -/
def ofTokens (tokens : List Token) : Except Fault (Option Graph) :=
  (document (tokens.length + 1) { tokens := tokens }).map fun (root, o) => root.map (⟨o.parts, ·⟩)

end Graph

end RetrievalTelemetry.Yaml
