/-
Posted batches of records.

A record that was successful has to name its provider.  That is looked at only when nothing
else is wrong with the record.
-/
import RetrievalTelemetry.Event.Record
import RetrievalTelemetry.Intake.Field
import RetrievalTelemetry.Json.Reader

namespace RetrievalTelemetry.Intake

def attempt : JsonCheck Attempt :=
  JsonCheck.object fun json =>
    Attempt.mk
      <$> JsonCheck.optional "error" "" text json
      <*> JsonCheck.optional "protocol" "" text json
      <*> JsonCheck.optional "timeToFirstByte" Duration.zero duration json

/-- A record from its fields in the order in which they are checked. -/
def assemble (instanceId : String) (retrieval : Uuid) (provider : String) (firstByte : Duration)
    (bandwidth bytes : Int) (success : Bool) (start finish : Timestamp) (firstCandidate : Duration)
    (candidates filtered : Int) (transport : String) (attempts : List (String × Attempt)) : Record :=
  { instanceId, retrieval, provider, firstByte, bandwidth, bytes, success, start, finish,
    firstCandidate, candidates, filtered, transport, attempts }

/-- The fields of a record, each for itself. -/
def recordFields (json : Json) : Checked Record :=
  assemble
    <$> JsonCheck.required "instanceId" text json
    <*> JsonCheck.required "retrievalId" uuid json
    <*> JsonCheck.optional "storageProviderId" "" text json
    <*> JsonCheck.optional "timeToFirstByte" Duration.zero duration json
    <*> JsonCheck.optional "bandwidth" 0 count json
    <*> JsonCheck.optional "bytesTransferred" 0 count json
    <*> JsonCheck.required "success" truth json
    <*> JsonCheck.required "startTime" timestamp json
    <*> JsonCheck.required "endTime" timestamp json
    <*> JsonCheck.optional "timeToFirstIndexerResult" Duration.zero duration json
    <*> JsonCheck.optional "indexerCandidatesReceived" 0 count json
    <*> JsonCheck.optional "indexerCandidatesFiltered" 0 count json
    <*> JsonCheck.optional "protocolSucceeded" "" text json
    <*> JsonCheck.optional "retrievalAttempts" [] (JsonCheck.table attempt) json

/-- A record, if it names a provider where it has to. -/
def withProvider (r : Record) : Checked Record :=
  if r.success && r.provider = "" then .refuse .providerMissing else .valid r

def record : JsonCheck Record :=
  JsonCheck.object fun json => (recordFields json).andThen withProvider

def records (body : ByteArray) : Except (List Problem) (List Record) :=
  batch record (Json.ofBytes? .strict body)

end RetrievalTelemetry.Intake
