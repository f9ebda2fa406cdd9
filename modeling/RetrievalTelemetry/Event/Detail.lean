/-
What the details of an event say.

Details arrive as free JSON.  Only an object can say anything, and which of its fields
counts depends on the event code: candidates have a count, a success has a size, a failure
has a message.  A field of the wrong kind says nothing.
-/
import RetrievalTelemetry.Event.Code
import RetrievalTelemetry.Json.Value

namespace RetrievalTelemetry

/-- The part of an event's details that is understood. -/
inductive Detail where
  /-- How many candidates were found or passed the filter. -/
  | candidates (count : Int)
  /-- How many bytes arrived. -/
  | received (size : Int)
  /-- Why an attempt failed. -/
  | error (message : String)
deriving DecidableEq, Repr

namespace Detail

/-- The count in a field; a truth value is not a number, and a number that is not finite is no count. -/
def countField? (name : String) (raw : Json) : Option Int :=
  match raw.field? name with
  | some (.number n) => n.toCount?
  | _ => none

def textField? (name : String) (raw : Json) : Option String :=
  match raw.field? name with
  | some (.string s) => some s
  | _ => none

/-- What the details of an event with a code say. -/
def ofJson? (code : EventCode) (raw : Json) : Option Detail :=
  match code with
  | .candidatesFound => (countField? "candidateCount" raw).map candidates
  | .candidatesFiltered => (countField? "candidateCount" raw).map candidates
  | .success => (countField? "receivedSize" raw).map received
  | .failure => (textField? "error" raw).map error
  | _ => none

end Detail

end RetrievalTelemetry
