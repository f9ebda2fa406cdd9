/-
Merging the entries of other mappings into a mapping.

The entries that a mapping asks for come before its own, so that its own ones prevail.  Of several
mappings that it asks for together the first one prevails, and therefore comes last.

What a mapping asks for is forgotten as soon as it is being merged.  So every mapping asks at most
once, also one that asks for itself, and the number of parts is fuel enough.
-/
import RetrievalTelemetry.Yaml.Graph

namespace RetrievalTelemetry.Yaml.Graph

/-- The parts of a document. -/
abbrev Parts := Array Part

/-- The entries of a mapping by number. -/
abbrev Entries := List (Nat × Nat)

/-- The entries of a part, if it is a mapping. -/
def entries? (parts : Parts) (part : Nat) : Option Entries :=
  match parts[part]? with
  | some ⟨_, .mapping entries⟩ => some entries
  | _ => none

def hasTag (parts : Parts) (tag : Tag) (part : Nat) : Bool := parts[part]?.any (·.tag == tag)

/-- The parts with other entries for a mapping. -/
def withEntries (parts : Parts) (part : Nat) (entries : Entries) : Parts :=
  parts.modify part fun p => { p with content := .mapping entries }

/-- A key that would stand for the value of its mapping is a text where all entries count. -/
def valueKeyAsText (parts : Parts) (key : Nat) : Parts :=
  parts.modify key fun p => if p.tag = .value then { p with tag := .text } else p

/-- The entries of a mapping with those that it asks for. -/
def merged : (fuel : Nat) → (parts : Parts) → (part : Nat) → Except Fault (Entries × Parts)
  | 0, _, _ => .error .tooDeep
  | fuel + 1, parts, part =>
    match entries? parts part with
    | none => .error .malformed
    | some entries => do
      let (asking, own) := entries.partition fun entry => hasTag parts .merge entry.1
      let parts := (own.map (·.1)).foldl valueKeyAsText (withEntries parts part own)
      let (asked, parts) ← asking.foldlM (askFor (merged fuel)) ([], parts)
      let entries := asked ++ (entries? parts part).getD own
      .ok (entries, withEntries parts part entries)
where
  /-- Adds the entries that a value asks for: those of a mapping, or of a list of mappings. -/
  askFor (one : Parts → Nat → Except Fault (Entries × Parts)) (state : Entries × Parts) (asking : Nat × Nat) :
      Except Fault (Entries × Parts) := do
    let (before, parts) := state
    match parts[asking.2]? with
    | some ⟨_, .sequence items⟩ => do
      let (lists, parts) ← items.foldlM (fun (lists, parts) item => do
        let (entries, parts) ← one parts item
        .ok (entries :: lists, parts)) (([] : List Entries), parts)
      .ok (before ++ lists.flatten, parts)
    | _ => do
      let (entries, parts) ← one parts asking.2
      .ok (before ++ entries, parts)

end RetrievalTelemetry.Yaml.Graph
