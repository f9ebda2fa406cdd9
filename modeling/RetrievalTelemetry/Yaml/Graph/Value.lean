/-
The values of documents.

The single values are found in the order in which a reader of layers meets them: first the whole
document, then for each collection that was met its members, those of one layer before those of
the next.  A part is met once, however many aliases stand for it.  This order tells which of
several faults is reported.

A document may contain itself, so its value is given to a depth; collections that lie deeper are
empty.
-/
import RetrievalTelemetry.Yaml.Graph.Merge
import RetrievalTelemetry.Yaml.Meaning
import RetrievalTelemetry.Yaml.Value

namespace RetrievalTelemetry.Yaml

namespace Graph

/-- A key of a mapping.  A NaN is the same key only if it is the same value: the word for it stands for one
value wherever it is written, and one that is read in another way is a value of its own. -/
structure Key where
  atom : Atom
  /-- The part of a NaN that is a value of its own. -/
  part : Option Nat
deriving BEq, Repr

/-- What is known of the value of a part. -/
inductive Known where
  | atom (value : Atom)
  /-- A collection whose members have not been met yet. -/
  | pending
  | sequence (items : List Nat)
  /-- A list of keys with values. -/
  | pairs (entries : Entries)
  | mapping (entries : List (Key × Nat))
  | set (members : List Atom)
deriving Repr

/-- What is known of a document. -/
structure Findings where
  parts : Parts
  known : Array (Option Known)
  /-- The collections whose members have not been met yet, the last one first. -/
  waiting : List Nat := []

/-- A step of finding values. -/
abbrev Finder := StateT Findings (Except Fault)

namespace Finder

/-- The text that a part stands for: its own, or that of the value of a mapping. -/
def textOf (parts : Parts) : (fuel : Nat) → (part : Nat) → Except Fault (String × Bool)
  | 0, _ => .error .tooDeep
  | fuel + 1, part =>
    match parts[part]? with
    | some ⟨_, .scalar shown isGarbled⟩ => .ok (shown, isGarbled)
    | some ⟨_, .mapping entries⟩ =>
      match entries.find? fun entry => hasTag parts .value entry.1 with
      | some entry => textOf parts fuel entry.2
      | none => .error .malformed
    | _ => .error .malformed

/-- The single value of a part with a tag. -/
def atomOf (parts : Parts) (tag : Tag) (part : Nat) : Except Fault Atom := do
  let (shown, isGarbled) ← textOf parts (parts.size + 1) part
  if tag = .time && (entries? parts part).isSome then .error .compoundTime
  else if tag = .text && isGarbled then .ok (.garbled shown)
  else tag.meaning shown

/-- The key that a part with a single value is. -/
def keyOf (parts : Parts) (part : Nat) (value : Atom) : Key :=
  let isWord := match textOf parts (parts.size + 1) part with
    | .ok (shown, _) => Meaning.isWordForNaN shown.toList
    | .error _ => false
  ⟨value, if value.isNaN && !isWord then some part else none⟩

def known? (part : Nat) : Finder (Option Known) := do pure ((← get).known[part]?).join

/-- Notes what is known of a part. -/
def learn (part : Nat) (known : Known) : Finder Unit :=
  modify fun f => { f with known := f.known.setIfInBounds part (some known) }

/-- Meets a part: a single value is found at once, a collection has to wait. -/
def meetPart (part : Nat) : Finder Unit := do
  let f ← get
  match ← known? part, f.parts[part]? with
  | none, some p =>
    if [Tag.sequence, .orderedMap, .pairs, .mapping, .set].contains p.tag then
      learn part .pending
      modify fun f => { f with waiting := part :: f.waiting }
    else learn part (.atom (← atomOf f.parts p.tag part))
  | _, _ => pure ()

/-- Meets a key and its value; the key has to be a single value. -/
def meetEntry (entry : Nat × Nat) : Finder (Key × Nat) := do
  meetPart entry.1
  match ← known? entry.1 with
  | some (.atom key) =>
    meetPart entry.2
    pure (keyOf (← get).parts entry.1 key, entry.2)
  | _ => throw .malformed

/-- Meets the entries of a mapping with those that are merged in. -/
def meetEntries (part : Nat) : Finder (List (Key × Nat)) := do
  let f ← get
  let (entries, parts) ← merged (f.parts.size + 1) f.parts part
  modify fun f => { f with parts }
  entries.mapM meetEntry

/-- Meets the key and the value of a mapping with a single entry. -/
def meetPair (part : Nat) : Finder (Nat × Nat) := do
  match entries? (← get).parts part with
  | some [entry] =>
    meetPart entry.1
    meetPart entry.2
    pure entry
  | _ => throw .malformed

/-- Meets the members of a collection. -/
def meetMembers (part : Nat) : Finder Unit := do
  match (← get).parts[part]? with
  | some ⟨.mapping, _⟩ => learn part (.mapping (← meetEntries part))
  | some ⟨.set, _⟩ =>
    let entries ← meetEntries part
    learn part (.set ((settleFields entries).map (·.1.atom)))
  | some ⟨.sequence, .sequence items⟩ =>
    items.forM meetPart
    learn part (.sequence items)
  | some ⟨.orderedMap, .sequence items⟩ | some ⟨.pairs, .sequence items⟩ =>
    learn part (.pairs (← items.mapM meetPair))
  | _ => throw .malformed

/-- Meets the collections that wait, layer by layer.  There are no more layers than parts. -/
def meetLayers : (fuel : Nat) → Finder Unit
  | 0 => pure ()
  | fuel + 1 => do
    let f ← get
    if !f.waiting.isEmpty then
      modify fun f => { f with waiting := [] }
      f.waiting.reverse.forM meetMembers
      meetLayers fuel

end Finder

/-- All that is known of the parts of a document in the end. -/
def findings (g : Graph) : Except Fault (Array (Option Known)) := do
  let start : Findings := { parts := g.parts, known := (List.replicate g.parts.size none).toArray }
  let find : Finder Unit := do
    Finder.meetPart g.root
    Finder.meetLayers (g.parts.size + 1)
  let (_, f) ← find start
  .ok f.known

/-- The value of a part to a depth. -/
def valueOf (known : Array (Option Known)) : (depth : Nat) → (part : Nat) → Yaml
  | depth, part =>
    match known[part]?.join with
    | some (.atom value) => .atom value
    | some (.set members) => .set members
    | some (.mapping entries) =>
      .mapping (match depth with
        | 0 => []
        | depth + 1 =>
          (settleFields entries).map fun entry => (entry.1.atom, valueOf known depth entry.2))
    | some (.sequence items) =>
      .sequence (match depth with
        | 0 => []
        | depth + 1 => items.map (valueOf known depth))
    | some (.pairs entries) =>
      .sequence (match depth with
        | 0 => []
        | depth + 1 => entries.map fun (key, value) =>
          .sequence [valueOf known depth key, valueOf known depth value])
    | some .pending | none => .null

end Graph

/-- The value of a text to a depth. -/
def ofText (depth : Nat) (text : String) : Except Fault Yaml := do
  match ← Graph.ofTokens (Token.ofText text) with
  | none => .ok .null
  | some g => g.findings.map fun known => Graph.valueOf known depth g.root

end RetrievalTelemetry.Yaml
