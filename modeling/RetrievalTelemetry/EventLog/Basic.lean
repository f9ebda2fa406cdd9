/-
The event log: three tables, and what can go wrong with them.

A row has the number after the greatest one of its table, and an empty table begins again at
one.  Times are kept as a clock in UTC shows them, spans of time in whole milliseconds.  An
attempt belongs to the record that it came with.

A table can be missing, because somebody else dropped it.  Then the operations that need it
fail; the others go on.
-/
import RetrievalTelemetry.Event.Basic
import RetrievalTelemetry.Event.Record

namespace RetrievalTelemetry

/-- The tables of the log. -/
inductive LogTable where
  | events
  | records
  | attempts
deriving DecidableEq, Repr

namespace LogTable

def all : List LogTable := [events, records, attempts]

def name : LogTable → String
  | events => "retrieval_events"
  | records => "aggregate_retrieval_events"
  | attempts => "retrieval_attempts"

def ofName? (name : String) : Option LogTable := all.find? fun t => t.name == name

end LogTable

/-- The operations on the log. -/
inductive LogOperation where
  | createTables
  | insertEvents
  | insertRecords
  | fetchEvents
  | countRecords
  | fetchAttemptProviders
  | wipeEvents
deriving DecidableEq, Repr

/-- The name of an operation in messages. -/
def LogOperation.name : LogOperation → String
  | createTables => "create_tables"
  | insertEvents => "insert_events"
  | insertRecords => "insert_aggregate_events"
  | fetchEvents => "fetch_events"
  | countRecords => "count_aggregate_events"
  | fetchAttemptProviders => "fetch_attempt_provider_ids"
  | wipeEvents => "wipe_events"

/-- Why an operation on the log fails. -/
inductive LogError where
  /-- The log is closed. -/
  | closed
  /-- The tables do not allow the operation. -/
  | failed (operation : LogOperation)
  /-- A number is too large for a column, or a time has no year from 1 to 9999 in UTC. -/
  | outOfRange
  /-- There is no such table. -/
  | missingTable
deriving DecidableEq, Repr

def LogError.message : LogError → String
  | closed => "Database is closed"
  | failed operation => "Storage operation '" ++ operation.name ++ "' failed"
  | outOfRange => "value out of range"
  | missingTable => "no such table"

/-- A row for one event.  The tags stand there by their names; the provider and the details may be
missing. -/
structure EventRow where
  id : Nat
  retrieval : Uuid
  instanceId : String
  cid : String
  provider : Option String
  phase : String
  phaseStart : WallTime
  code : String
  time : WallTime
  details : Option Json
deriving Inhabited

/-- A row for one record, without its attempts. -/
structure RecordRow where
  id : Nat
  retrieval : Uuid
  instanceId : String
  provider : String
  firstByteMillis : Int
  bandwidth : Int
  bytes : Int
  success : Bool
  start : WallTime
  finish : WallTime
  firstCandidateMillis : Int
  candidates : Int
  filtered : Int
  transport : String
deriving DecidableEq, Repr, Inhabited

/-- A row for one attempt. -/
structure AttemptRow where
  id : Nat
  /-- The number of the row of its record. -/
  record : Nat
  provider : String
  transport : String
  error : String
  firstByteMillis : Int
deriving DecidableEq, Repr, Inhabited

namespace EventRow

/-- The column for details: nothing stands for null. -/
def detailsColumn : Json → Option Json
  | .null => none
  | raw => some raw

def ofEvent (id : Nat) (e : Event) : EventRow where
  id := id
  retrieval := e.retrieval
  instanceId := e.instanceId
  cid := e.cid
  provider := some e.provider
  phase := e.phase.name
  phaseStart := e.phaseStart.toUtc.wall
  code := e.code.name
  time := e.time.toUtc.wall
  details := detailsColumn e.raw

/-- The event that a row is read as; none if a tag has a name that nobody knows. -/
def event? (row : EventRow) : Option Event := do
  let phase ← (Phase.ofName row.phase).toOption
  let code ← (EventCode.ofName row.code).toOption
  some
    { retrieval := row.retrieval
      instanceId := row.instanceId
      cid := row.cid
      provider := row.provider.getD ""
      phase := phase
      phaseStart := row.phaseStart.inUtc
      code := code
      time := row.time.inUtc
      raw := row.details.getD .null }

end EventRow

namespace RecordRow

def ofRecord (id : Nat) (r : Record) : RecordRow where
  id := id
  retrieval := r.retrieval
  instanceId := r.instanceId
  provider := r.provider
  firstByteMillis := r.firstByte.toMillis
  bandwidth := r.bandwidth
  bytes := r.bytes
  success := r.success
  start := r.start.toUtc.wall
  finish := r.finish.toUtc.wall
  firstCandidateMillis := r.firstCandidate.toMillis
  candidates := r.candidates
  filtered := r.filtered
  transport := r.transport

/-- Whether a whole number fits into a column: 64 bits with a sign. -/
def fitsColumn (n : Int) : Bool := -0x8000000000000000 ≤ n && n < 0x8000000000000000

/-- Whether all numbers of a row fit into their columns. -/
def fits (row : RecordRow) : Bool :=
  [row.firstByteMillis, row.bandwidth, row.bytes, row.firstCandidateMillis, row.candidates,
   row.filtered].all fitsColumn

end RecordRow

namespace AttemptRow

/-- The row for an attempt at a provider, which came with the record in a row. -/
def ofAttempt (id record : Nat) (provider : String) (attempt : Attempt) : AttemptRow where
  id := id
  record := record
  provider := provider
  transport := attempt.transport
  error := attempt.error
  firstByteMillis := attempt.firstByte.toMillis

/-- The rows for the attempts of a record, numbered from `id`. -/
def ofAttempts (id record : Nat) : List (String × Attempt) → List AttemptRow
  | [] => []
  | (provider, attempt) :: rest =>
    ofAttempt id record provider attempt :: ofAttempts (id + 1) record rest

end AttemptRow

/-- The contents of a log; a table that is missing is none. -/
structure LogTables where
  events : Option (List EventRow) := some []
  records : Option (List RecordRow) := some []
  attempts : Option (List AttemptRow) := some []
deriving Inhabited

/-- A log, open or closed. -/
structure EventLog where
  tables : LogTables := {}
  isOpen : Bool := true
deriving Inhabited

end RetrievalTelemetry
