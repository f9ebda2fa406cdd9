/-
JSON values.

An object keeps its fields as they were written, in order and with repeated names; a
repeated name means its last value.  `settled` is the object a reader works with: each
name once, at its first place, with its last value.
-/
import RetrievalTelemetry.Number

namespace RetrievalTelemetry

/-- A JSON value; whole numbers and doubles stay apart. -/
inductive Json where
  | null
  | bool (value : Bool)
  | number (value : Number)
  | string (value : String)
  | array (items : List Json)
  | object (fields : List (String × Json))
deriving Repr, Inhabited

/-- Puts `value` at `key`: in place of an older entry, or behind all others. -/
def putField {α β : Type} [BEq α] (key : α) (value : β) : List (α × β) → List (α × β)
  | [] => [(key, value)]
  | entry :: rest => if entry.1 == key then (entry.1, value) :: rest else entry :: putField key value rest

/-- Each key once, at its first place, with its last value. -/
def settleFields {α β : Type} [BEq α] (fields : List (α × β)) : List (α × β) :=
  fields.foldl (fun done entry => putField entry.1 entry.2 done) []

def lastField? {α β : Type} [BEq α] (key : α) (fields : List (α × β)) : Option β :=
  fields.foldl (fun found entry => if entry.1 == key then some entry.2 else found) none

namespace Json

/-- The value of a field of an object. -/
def field? (name : String) : Json → Option Json
  | object fields => lastField? name fields
  | _ => none

mutual

/-- The value without repeated names, at every depth. -/
def settled : Json → Json
  | array items => array (settledItems items)
  | object fields => object (settleFields (settledFields fields))
  | other => other

/-- The items without repeated names. -/
def settledItems : List Json → List Json
  | [] => []
  | item :: rest => item.settled :: settledItems rest

/-- The fields with values without repeated names. -/
def settledFields : List (String × Json) → List (String × Json)
  | [] => []
  | (name, value) :: rest => (name, value.settled) :: settledFields rest

end

mutual

/-- Whether two values are written alike. -/
def alike : Json → Json → Bool
  | null, null => true
  | bool a, bool b => a = b
  | number a, number b => a = b
  | string a, string b => a = b
  | array as, array bs => alikeItems as bs
  | object as, object bs => alikeFields as bs
  | _, _ => false

def alikeItems : List Json → List Json → Bool
  | [], [] => true
  | a :: as, b :: bs => a.alike b && alikeItems as bs
  | _, _ => false

def alikeFields : List (String × Json) → List (String × Json) → Bool
  | [], [] => true
  | (name, a) :: as, (name', b) :: bs => name = name' && (a.alike b && alikeFields as bs)
  | _, _ => false

end

mutual

theorem alike_iff : ∀ a b : Json, a.alike b = true ↔ a = b
  | null, b => by cases b <;> simp [alike]
  | bool a, b => by cases b <;> simp [alike]
  | number a, b => by cases b <;> simp [alike]
  | string a, b => by cases b <;> simp [alike]
  | array as, b => by cases b <;> simp [alike, alikeItems_iff as]
  | object as, b => by cases b <;> simp [alike, alikeFields_iff as]

theorem alikeItems_iff : ∀ as bs : List Json, alikeItems as bs = true ↔ as = bs
  | [], bs => by cases bs <;> simp [alikeItems]
  | a :: as, bs => by cases bs <;> simp [alikeItems, alike_iff a, alikeItems_iff as]

theorem alikeFields_iff :
    ∀ as bs : List (String × Json), alikeFields as bs = true ↔ as = bs
  | [], bs => by cases bs <;> simp [alikeFields]
  | (name, a) :: as, bs => by
    cases bs <;>
      simp [alikeFields, Prod.ext_iff, alike_iff a, alikeFields_iff as, and_assoc]

end

instance : DecidableEq Json := fun a b => decidable_of_iff _ (alike_iff a b)

end Json

end RetrievalTelemetry
