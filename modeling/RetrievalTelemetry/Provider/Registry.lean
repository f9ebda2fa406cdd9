/-
The registry of providers, as far as it can be observed.

A registry replies to every request.  What it replies to the next request about a provider
may depend on how often it was asked before, and on nothing else that matters here.  Only a
list of names is an answer; anything else is a failure of the lookup.
-/
import RetrievalTelemetry.Json.Reader
import RetrievalTelemetry.Text.Encoding

namespace RetrievalTelemetry

/-- What comes back for a request. -/
inductive Reply where
  /-- The request did not get through. -/
  | unreachable
  | response (status : Nat) (body : ByteArray)

namespace Reply

/-- The texts in a list that holds nothing else. -/
def texts? (items : List Json) : Option (List String) :=
  items.mapM fun item =>
    match item with
    | .string s => some s
    | _ => none

/-- The names that a reply gives: a body that is a list of texts, with a status that means success.  A
body that is nested too deep stops the reader. -/
def names? : Reply → Except Json.ReadError (Option (List String))
  | unreachable => .ok none
  | response status body =>
    if 200 ≤ status ∧ status < 300 then
      match (Text.ofBytes? body).map (Json.read .tolerant) with
      | some (.ok (.array items)) => .ok (texts? items)
      | some (.error .tooDeep) => .error .tooDeep
      | _ => .ok none
    else .ok none

/-- The answer that a reply gives: the first name, or an empty one if the provider has none. -/
def answer? (reply : Reply) : Except Json.ReadError (Option String) :=
  reply.names?.map fun names => names.map fun names => names.head?.getD ""

end Reply

/-- A registry: its reply to a request about a provider, given the number of earlier ones. -/
abbrev Registry := (provider : String) → (earlier : Nat) → Reply

namespace Registry

/-- A registry that goes through a list of replies for each provider and repeats the last one; it has
no names for any other provider. -/
def ofScript (script : List (String × List Reply)) : Registry := fun provider earlier =>
  let empty := Reply.response 200 "[]".toUTF8
  match script.lookup provider with
  | none => empty
  | some replies => (replies[min earlier (replies.length - 1)]?).getD empty

end Registry

end RetrievalTelemetry
