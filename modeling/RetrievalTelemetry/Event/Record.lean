/-
Records: whole retrievals, put together by the client.
-/
import RetrievalTelemetry.Time.Timestamp
import RetrievalTelemetry.Uuid

namespace RetrievalTelemetry

/-- The outcome of trying one provider; an empty `error` means that it did not fail. -/
structure Attempt where
  error : String := ""
  /-- The multicodec name of the transport. -/
  transport : String := ""
  firstByte : Duration := Duration.zero
deriving DecidableEq, Repr, Inhabited

/-- One whole retrieval. -/
structure Record where
  instanceId : String
  retrieval : Uuid
  start : Timestamp
  finish : Timestamp
  success : Bool
  /-- The provider that delivered; empty if none is named. -/
  provider : String := ""
  firstByte : Duration := Duration.zero
  /-- Bytes per second. -/
  bandwidth : Int := 0
  bytes : Int := 0
  /-- How long the indexer took to answer. -/
  firstCandidate : Duration := Duration.zero
  candidates : Int := 0
  filtered : Int := 0
  /-- The multicodec name of the transport that delivered. -/
  transport : String := ""
  /-- The attempts by provider, each provider once, in the order of the client. -/
  attempts : List (String × Attempt) := []
deriving DecidableEq, Inhabited

/-- The time from start to finish. -/
def Record.duration (r : Record) : Duration := r.finish.since r.start

end RetrievalTelemetry
