/-
YAML documents as values: single values, sequences, mappings and sets.

A mapping has every key once, at its first place and with its last value.
-/
import RetrievalTelemetry.Check.Scalar
import RetrievalTelemetry.Json.Value
import RetrievalTelemetry.Yaml.Atom

namespace RetrievalTelemetry

/-- A YAML value. -/
inductive Yaml where
  | atom (value : Yaml.Atom)
  | sequence (items : List Yaml)
  | mapping (entries : List (Yaml.Atom × Yaml))
  | set (members : List Yaml.Atom)
deriving Repr, Inhabited

namespace Yaml

/-- The empty value. -/
def null : Yaml := atom .null

/-- The value of an entry. -/
def get? (key : Atom) : Yaml → Option Yaml
  | mapping entries => entries.lookup key
  | _ => none

/-! ### Kinds -/

/-- Whether a value counts as none at all. -/
def isVoid : Yaml → Bool
  | atom .null => true
  | atom (.bool b) => !b
  | atom (.number n) => n.eq (.int 0)
  | atom (.text s) => s.isEmpty
  | atom (.bytes b) => b.isEmpty
  | atom _ => false
  | sequence items => items.isEmpty
  | mapping entries => entries.isEmpty
  | set members => members.isEmpty

def kindName : Yaml → String
  | atom .null => "NoneType"
  | atom (.bool _) => "bool"
  | atom (.number (.int _)) => "int"
  | atom (.number (.double _)) => "float"
  | atom (.text _) | atom (.garbled _) => "str"
  | atom (.bytes _) => "bytes"
  | atom (.date _) => "date"
  | atom (.moment _) => "datetime"
  | sequence _ => "list"
  | mapping _ => "dict"
  | set _ => "set"

def scalar : Yaml → Scalar
  | atom .null => .null
  | atom (.bool b) => .bool b
  | atom (.number n) => .number n
  | atom (.text s) => .text s
  | atom (.garbled _) => .garbled
  | atom (.bytes b) => .bytes (String.fromUTF8? ⟨b.toArray⟩)
  | _ => .compound

/-! ### JSON -/

mutual

/-- A JSON value, all of whose keys are texts. -/
def ofJson : Json → Yaml
  | .null => null
  | .bool b => atom (.bool b)
  | .number n => atom (.number n)
  | .string s => atom (.text s)
  | .array items => sequence (ofJsonItems items)
  | .object fields => mapping (settleFields (ofJsonFields fields))

/-- The items of an array. -/
def ofJsonItems : List Json → List Yaml
  | [] => []
  | item :: rest => ofJson item :: ofJsonItems rest

/-- The fields of an object. -/
def ofJsonFields : List (String × Json) → List (Atom × Yaml)
  | [] => []
  | (name, value) :: rest => (.text name, ofJson value) :: ofJsonFields rest

end

mutual

/-- The value as JSON, with dates left out and the names of keys as in paths. -/
def toJson : Yaml → Json
  | atom (.bool b) => .bool b
  | atom (.number n) => .number n
  | atom (.text s) => .string s
  | atom _ => .null
  | sequence items => .array (toJsonItems items)
  | mapping entries => .object (toJsonEntries entries)
  | set members => .array (members.map fun member => .string member.step)

/-- The items of a sequence. -/
def toJsonItems : List Yaml → List Json
  | [] => []
  | item :: rest => toJson item :: toJsonItems rest

/-- The entries of a mapping. -/
def toJsonEntries : List (Atom × Yaml) → List (String × Json)
  | [] => []
  | (key, value) :: rest => (key.step, toJson value) :: toJsonEntries rest

end

end Yaml

end RetrievalTelemetry
