/-
Results of checking: a value, or all that is wrong.

Two checks put together report the problems of both, those of the first one first.  So a
record with many fields is checked by putting together the checks of its fields, and the
report follows the order of the fields.
-/
import RetrievalTelemetry.Check.Problem
import RetrievalTelemetry.Json.Value

namespace RetrievalTelemetry

/-- The result of a check. -/
inductive Checked (α : Type) where
  | valid (value : α)
  | invalid (problems : List Problem)
deriving DecidableEq, Repr

namespace Checked

/-- One problem with the value itself. -/
def refuse {α : Type} (cause : Cause) : Checked α := invalid [{ cause := cause }]

/-- Applies a function to a value that is valid. -/
def map {α β : Type} (f : α → β) : Checked α → Checked β
  | valid a => valid (f a)
  | invalid problems => invalid problems

/-- Puts two checks together. -/
def seq {α β : Type} (f : Checked (α → β)) (x : Checked α) : Checked β :=
  match f, x with
  | valid f, valid a => valid (f a)
  | valid _, invalid problems => invalid problems
  | invalid problems, valid _ => invalid problems
  | invalid problems, invalid more => invalid (problems ++ more)

instance : Applicative Checked where
  pure := valid
  map := map
  seq f x := seq f (x ())

/-- A further check of a value that is valid so far. -/
def andThen {α β : Type} (x : Checked α) (f : α → Checked β) : Checked β :=
  match x with
  | valid a => f a
  | invalid problems => invalid problems

/-- The same result, seen from one step further out. -/
def under {α : Type} (step : String) : Checked α → Checked α
  | valid a => valid a
  | invalid problems => invalid (problems.map (Problem.under step))

/-- Checks every item of a list, with its number from `start` on as a step of the path. -/
def eachItem {α β : Type} (check : α → Checked β) (start : Nat) : List α → Checked (List β)
  | [] => valid []
  | a :: rest => seq (map List.cons ((check a).under (toString start))) (eachItem check (start + 1) rest)

/-- Checks every entry of a list, with its name as a step of the path. -/
def eachEntry {α β : Type} (check : α → Checked β) : List (String × α) → Checked (List (String × β))
  | [] => valid []
  | (name, a) :: rest =>
    seq (map (fun b others => (name, b) :: others) ((check a).under name)) (eachEntry check rest)

end Checked

abbrev JsonCheck (α : Type) := Json → Checked α

namespace JsonCheck

/-- A field that has to be there. -/
def required {α : Type} (name : String) (check : JsonCheck α) : JsonCheck α := fun json =>
  match json.field? name with
  | none => (Checked.refuse .missing).under name
  | some value => (check value).under name

/-- A field that has a value of its own if it is left out. -/
def optional {α : Type} (name : String) (default : α) (check : JsonCheck α) : JsonCheck α := fun json =>
  match json.field? name with
  | none => .valid default
  | some value => (check value).under name

/-- An object, whose fields are then checked. -/
def object {α : Type} (check : JsonCheck α) : JsonCheck α
  | json@(.object _) => check json
  | _ => .refuse .notObject

/-- An array, all of whose items are checked. -/
def array {α : Type} (check : JsonCheck α) : JsonCheck (List α)
  | .array items => Checked.eachItem check 0 items
  | _ => .refuse .notArray

/-- An object as a table: each name once, with its last value.  Every entry is checked, also one that
a later one replaces. -/
def table {α : Type} (check : JsonCheck α) : JsonCheck (List (String × α))
  | .object fields => (Checked.eachEntry check fields).map settleFields
  | _ => .refuse .notObject

end JsonCheck

end RetrievalTelemetry
