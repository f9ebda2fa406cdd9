/-
Posted batches of events.
-/
import RetrievalTelemetry.Event.Basic
import RetrievalTelemetry.Intake.Field
import RetrievalTelemetry.Json.Reader

namespace RetrievalTelemetry.Intake

/-- The details of an event: an object of any kind, or nothing. -/
def details : JsonCheck Json
  | .null => .valid .null
  | json@(.object _) => .valid json.settled
  | _ => .refuse .notObject

def event : JsonCheck Event :=
  JsonCheck.object fun json =>
    Event.mk
      <$> JsonCheck.required "retrievalId" uuid json
      <*> JsonCheck.required "instanceId" text json
      <*> JsonCheck.required "cid" text json
      <*> JsonCheck.required "storageProviderId" text json
      <*> JsonCheck.required "phase" (fun v => v.scalar.asOneOf Phase.all Phase.name) json
      <*> JsonCheck.required "phaseStartTime" timestamp json
      <*> JsonCheck.required "eventName" (fun v => v.scalar.asOneOf EventCode.all EventCode.name) json
      <*> JsonCheck.required "eventTime" timestamp json
      <*> JsonCheck.optional "eventDetails" .null details json

def events (body : ByteArray) : Except (List Problem) (List Event) :=
  batch event (Json.ofBytes? .strict body)

end RetrievalTelemetry.Intake
