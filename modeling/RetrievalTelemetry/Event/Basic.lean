/-
Events: single steps of a retrieval, as a client reports them.
-/
import RetrievalTelemetry.Event.Detail
import RetrievalTelemetry.Time.Timestamp
import RetrievalTelemetry.Uuid

namespace RetrievalTelemetry

/-- One step of one retrieval. -/
structure Event where
  /-- The retrieval that the step belongs to. -/
  retrieval : Uuid
  /-- The client that reports it. -/
  instanceId : String
  /-- The content that is retrieved. -/
  cid : String
  /-- The provider that the step concerns; empty or the word for bitswap if it concerns no single
  one. -/
  provider : String
  phase : Phase
  phaseStart : Timestamp
  code : EventCode
  time : Timestamp
  /-- The details as received; null if there are none. -/
  raw : Json
deriving Inhabited

namespace Event

/-- What the details say. -/
def detail? (e : Event) : Option Detail := Detail.ofJson? e.code e.raw

/-- The count of candidates, if the details give one. -/
def candidates? (e : Event) : Option Int :=
  match e.detail? with
  | some (.candidates count) => some count
  | _ => none

/-- The number of bytes, if the details give one. -/
def received? (e : Event) : Option Int :=
  match e.detail? with
  | some (.received size) => some size
  | _ => none

/-- The failure message, if the details give one. -/
def errorText? (e : Event) : Option String :=
  match e.detail? with
  | some (.error message) => some message
  | _ => none

end Event

end RetrievalTelemetry
