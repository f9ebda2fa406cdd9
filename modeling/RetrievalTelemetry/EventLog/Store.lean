/-
Writing to the event log and reading it back.

A batch is stored as a whole or not at all.  Of several things that are wrong, the first in
this order counts: the log is closed, a time has no place in UTC, a table is missing, a
number does not fit.  An empty batch is stored without looking at the log.
-/
import RetrievalTelemetry.EventLog.Basic

namespace RetrievalTelemetry

namespace LogTables

/-- The number for the next row of a table with rows of these numbers. -/
def nextId (ids : List Nat) : Nat := ids.max?.getD 0 + 1

/-- Rows for events, numbered from `id`. -/
def eventRows (id : Nat) : List Event → List EventRow
  | [] => []
  | e :: rest => EventRow.ofEvent id e :: eventRows (id + 1) rest

/-- Adds events behind all others. -/
def insertEvents (t : LogTables) (events : List Event) : Except LogError LogTables :=
  if events.all fun e => e.phaseStart.hasUtcYear && e.time.hasUtcYear then
    match t.events with
    | none => .error (.failed .insertEvents)
    | some rows =>
      .ok { t with events := some (rows ++ eventRows (nextId (rows.map (·.id))) events) }
  else .error .outOfRange

/-- Adds the attempts of the record with a number. -/
def insertAttempts (t : LogTables) (record : Nat) (attempts : List (String × Attempt)) :
    Except LogError LogTables :=
  if attempts.isEmpty then .ok t
  else
    match t.attempts with
    | none => .error (.failed .insertRecords)
    | some rows =>
      .ok { t with attempts := some (rows ++ AttemptRow.ofAttempts (nextId (rows.map (·.id))) record attempts) }

/-- Adds a record and its attempts behind all others. -/
def insertRecord (t : LogTables) (r : Record) : Except LogError LogTables :=
  if r.start.hasUtcYear && r.finish.hasUtcYear then
    match t.records with
    | none => .error (.failed .insertRecords)
    | some rows =>
      let row := RecordRow.ofRecord (nextId (rows.map (·.id))) r
      if row.fits then insertAttempts { t with records := some (rows ++ [row]) } row.id r.attempts
      else .error .outOfRange
  else .error .outOfRange

def has (t : LogTables) : LogTable → Bool
  | .events => t.events.isSome
  | .records => t.records.isSome
  | .attempts => t.attempts.isSome

/-- Removes a table.  Without records there are no attempts either. -/
def drop (t : LogTables) : LogTable → LogTables
  | .events => { t with events := none }
  | .records => { t with records := none, attempts := t.attempts.map fun _ => [] }
  | .attempts => { t with attempts := none }

/-- Makes the tables that are missing. -/
def complete (t : LogTables) : LogTables :=
  ⟨some (t.events.getD []), some (t.records.getD []), some (t.attempts.getD [])⟩

end LogTables

namespace EventLog

/-- A new log. -/
def empty : EventLog := {}

/-- The log as it is for those who do not share it: without tables. -/
def withoutTables (log : EventLog) : EventLog := { log with tables := ⟨none, none, none⟩ }

/-- The tables of a log that is open. -/
def openTables (log : EventLog) : Except LogError LogTables :=
  if log.isOpen then .ok log.tables else .error .closed

/-- Stores events, and answers their number. -/
def insertEvents (log : EventLog) (events : List Event) : Except LogError (Nat × EventLog) :=
  if events.isEmpty then .ok (0, log)
  else do
    let tables ← (← log.openTables).insertEvents events
    .ok (events.length, { log with tables := tables })

/-- Stores records with their attempts, and answers the number of records. -/
def insertRecords (log : EventLog) (records : List Record) : Except LogError (Nat × EventLog) :=
  if records.isEmpty then .ok (0, log)
  else do
    let tables ← records.foldlM LogTables.insertRecord (← log.openTables)
    .ok (records.length, { log with tables := tables })

/-- All events, in the order of their numbers. -/
def fetchEvents (log : EventLog) : Except LogError (List Event) := do
  match (← log.openTables).events with
  | none => .error (.failed .fetchEvents)
  | some rows =>
    match (rows.mergeSort fun a b => a.id ≤ b.id).mapM EventRow.event? with
    | none => .error (.failed .fetchEvents)
    | some events => .ok events

def countRecords (log : EventLog) : Except LogError Nat := do
  match (← log.openTables).records with
  | none => .error (.failed .countRecords)
  | some rows => .ok rows.length

/-- The provider of each attempt, in the order of their numbers. -/
def attemptProviders (log : EventLog) : Except LogError (List String) := do
  match (← log.openTables).attempts with
  | none => .error (.failed .fetchAttemptProviders)
  | some rows => .ok ((rows.mergeSort fun a b => a.id ≤ b.id).map (·.provider))

/-- Deletes all events, and answers their number; records stay. -/
def wipeEvents (log : EventLog) : Except LogError (Nat × EventLog) := do
  let tables ← log.openTables
  match tables.events with
  | none => .error (.failed .wipeEvents)
  | some rows => .ok (rows.length, { log with tables := { tables with events := some [] } })

/-- Removes a table that is there from an open log. -/
def drop (log : EventLog) (table : LogTable) : Except LogError EventLog := do
  let tables ← log.openTables
  if tables.has table then .ok { log with tables := tables.drop table } else .error .missingTable

/-- Closes the log; the tables stay what they are. -/
def close (log : EventLog) : EventLog := { log with isOpen := false }

/-- Opens the tables of the log again. -/
def reopen (log : EventLog) : EventLog := { tables := log.tables.complete }

end EventLog

end RetrievalTelemetry
