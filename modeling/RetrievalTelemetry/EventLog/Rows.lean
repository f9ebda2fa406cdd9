/-
The rows of the event log by column.
-/
import RetrievalTelemetry.EventLog.Store

namespace RetrievalTelemetry

/-- A whole number in a column. -/
def integerColumn (n : Int) : Json := .number (.int n)

/-- A time in a column. -/
def timeColumn (w : WallTime) : Json := .string w.text

def EventRow.columns (row : EventRow) : List (String × Json) :=
  [("event_id", integerColumn row.id),
   ("retrieval_id", .string row.retrieval.render),
   ("instance_id", .string row.instanceId),
   ("cid", .string row.cid),
   ("storage_provider_id", row.provider.elim .null .string),
   ("phase", .string row.phase),
   ("phase_start_time", timeColumn row.phaseStart),
   ("event_name", .string row.code),
   ("event_time", timeColumn row.time),
   ("event_details", row.details.getD .null)]

def RecordRow.columns (row : RecordRow) : List (String × Json) :=
  [("aggregate_id", integerColumn row.id),
   ("retrieval_id", .string row.retrieval.render),
   ("instance_id", .string row.instanceId),
   ("storage_provider_id", .string row.provider),
   ("time_to_first_byte_ms", integerColumn row.firstByteMillis),
   ("bandwidth_bytes_sec", integerColumn row.bandwidth),
   ("bytes_transferred", integerColumn row.bytes),
   ("success", .bool row.success),
   ("start_time", timeColumn row.start),
   ("end_time", timeColumn row.finish),
   ("time_to_first_indexer_result_ms", integerColumn row.firstCandidateMillis),
   ("indexer_candidates_received", integerColumn row.candidates),
   ("indexer_candidates_filtered", integerColumn row.filtered),
   ("protocol_succeeded", .string row.transport)]

def AttemptRow.columns (row : AttemptRow) : List (String × Json) :=
  [("attempt_id", integerColumn row.id),
   ("aggregate_id", integerColumn row.record),
   ("storage_provider_id", .string row.provider),
   ("protocol", .string row.transport),
   ("error", .string row.error),
   ("time_to_first_byte_ms", integerColumn row.firstByteMillis)]

/-- The rows of a table, by column; none if the table is missing. -/
def LogTables.rows? (t : LogTables) : LogTable → Option (List (List (String × Json)))
  | .events => t.events.map fun rows => rows.map EventRow.columns
  | .records => t.records.map fun rows => rows.map RecordRow.columns
  | .attempts => t.attempts.map fun rows => rows.map AttemptRow.columns

end RetrievalTelemetry
