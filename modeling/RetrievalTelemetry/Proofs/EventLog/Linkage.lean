/-
The records of a log and their attempts over its whole history.

A record is written with its attempts, each of which refers to the row of the record.  The history of a
log consists of batches, wipes and reopenings, and the database may give up on each of them at any
statement.  What is held at the end are the records of the batches that were stored, and their
attempts, both numbered without gaps from one on.

`HoldsRecords` says so with the rows that `Append` gives for a batch.  A step that is done keeps it, a
step that fails leaves the log alone, and `Linked` is read off from it: it says the same without the
numbers.
-/
import RetrievalTelemetry.Proofs.EventLog.History

namespace RetrievalTelemetry

/-- The records that a step brings. -/
def LogStep.records : LogStep → List Record
  | insertRecords records => records
  | _ => []

/-! ### Rows and records -/

/-- A span in whole milliseconds, rounded down. -/
def Duration.HasMillis (d : Duration) (millis : Int) : Prop :=
  millis * 1000 ≤ d.micros ∧ d.micros < (millis + 1) * 1000

theorem Duration.hasMillis_iff {d : Duration} {millis : Int} :
    d.HasMillis millis ↔ millis = d.toMillis := by
  have hfloor : d.toMillis = d.micros / 1000 := Int.fdiv_eq_ediv_of_nonneg _ (by decide)
  unfold HasMillis
  omega

/-- What the columns of a row hold of a record: the times as a clock in UTC shows them, the spans in
whole milliseconds, and everything else as it is. -/
structure RecordRow.StandsFor (row : RecordRow) (r : Record) : Prop where
  retrieval : row.retrieval = r.retrieval
  instanceId : row.instanceId = r.instanceId
  provider : row.provider = r.provider
  firstByte : r.firstByte.HasMillis row.firstByteMillis
  bandwidth : row.bandwidth = r.bandwidth
  bytes : row.bytes = r.bytes
  success : row.success = r.success
  start : row.start.micros = r.start.micros
  finish : row.finish.micros = r.finish.micros
  firstCandidate : r.firstCandidate.HasMillis row.firstCandidateMillis
  candidates : row.candidates = r.candidates
  filtered : row.filtered = r.filtered
  transport : row.transport = r.transport

/-- What the columns of a row hold of an attempt at a provider, which came with the record in a row. -/
structure AttemptRow.StandsFor (row : AttemptRow) (record : Nat) (provider : String)
    (attempt : Attempt) : Prop where
  record : row.record = record
  provider : row.provider = provider
  transport : row.transport = attempt.transport
  error : row.error = attempt.error
  firstByte : attempt.firstByte.HasMillis row.firstByteMillis

attribute [ext] RecordRow AttemptRow

theorem Timestamp.micros_wall_toUtc (t : Timestamp) : t.toUtc.wall.micros = t.micros := by
  simp [toUtc, wall]

/-- The columns of a row say all of it. -/
theorem RecordRow.standsFor_iff {row : RecordRow} {r : Record} :
    row.StandsFor r ↔ row = ofRecord row.id r := by
  constructor
  · intro h
    have hwall : ∀ {w : WallTime} {t : Timestamp}, w.micros = t.micros → w = t.toUtc.wall :=
      fun {w t} hmicros => congrArg WallTime.mk (hmicros.trans t.micros_wall_toUtc.symm)
    exact RecordRow.ext rfl h.retrieval h.instanceId h.provider
      (Duration.hasMillis_iff.mp h.firstByte) h.bandwidth h.bytes h.success (hwall h.start)
      (hwall h.finish) (Duration.hasMillis_iff.mp h.firstCandidate) h.candidates h.filtered
      h.transport
  · intro h
    rw [h]
    have hmillis : ∀ {d : Duration}, d.HasMillis d.toMillis := Duration.hasMillis_iff.mpr rfl
    exact ⟨rfl, rfl, rfl, hmillis, rfl, rfl, rfl, r.start.micros_wall_toUtc,
      r.finish.micros_wall_toUtc, hmillis, rfl, rfl, rfl⟩

theorem AttemptRow.standsFor_iff {row : AttemptRow} {record : Nat} {provider : String}
    {attempt : Attempt} :
    row.StandsFor record provider attempt ↔ row = ofAttempt row.id record provider attempt := by
  constructor
  · intro h
    exact AttemptRow.ext rfl h.record h.provider h.transport h.error
      (Duration.hasMillis_iff.mp h.firstByte)
  · intro h
    rw [h]
    exact ⟨rfl, rfl, rfl, rfl, Duration.hasMillis_iff.mpr rfl⟩

/-- Rows that stand for records and their attempts, both in the order of their numbers.  An attempt
refers to the row of the record that it belongs to. -/
structure Linked (rows : List RecordRow) (attempts : List AttemptRow) (records : List Record) :
    Prop where
  eachRow : List.Forall₂ RecordRow.StandsFor rows records
  rowIds : (rows.map (·.id)).Pairwise (· < ·)
  eachAttempt :
    List.Forall₂ (fun row a => AttemptRow.StandsFor row a.1 a.2.1 a.2.2) attempts
      ((rows.zip records).flatMap fun x => x.2.attempts.map fun attempt => (x.1.id, attempt))
  attemptIds : (attempts.map (·.id)).Pairwise (· < ·)

namespace LogTables

theorem forall₂_rowsOfRecords (first : Nat) (records : List Record) :
    List.Forall₂ RecordRow.StandsFor (rowsOfRecords first records) records := by
  induction records generalizing first with
  | nil => exact List.Forall₂.nil
  | cons r rest ih => exact List.Forall₂.cons (RecordRow.standsFor_iff.mpr rfl) (ih (first + 1))

theorem forall₂_rowsOfAttempts (first : Nat) (attempts : List (Nat × String × Attempt)) :
    List.Forall₂ (fun row a => AttemptRow.StandsFor row a.1 a.2.1 a.2.2)
      (rowsOfAttempts first attempts) attempts := by
  induction attempts generalizing first with
  | nil => exact List.Forall₂.nil
  | cons a rest ih => exact List.Forall₂.cons (AttemptRow.standsFor_iff.mpr rfl) (ih (first + 1))

/-- The number that the attempts of a record refer to is that of its row. -/
theorem attemptsOf_eq_zip (first : Nat) (records : List Record) :
    attemptsOf first records
      = ((rowsOfRecords first records).zip records).flatMap fun x =>
          x.2.attempts.map fun attempt => (x.1.id, attempt) := by
  induction records generalizing first with
  | nil => rfl
  | cons r rest ih =>
      rw [attemptsOf_cons, ih]
      rfl

theorem linked_rows (records : List Record) :
    Linked (rowsOfRecords 1 records) (rowsOfAttempts 1 (attemptsOf 1 records)) records where
  eachRow := forall₂_rowsOfRecords 1 records
  rowIds := by
    rw [ids_rowsOfRecords]
    exact List.pairwise_lt_range'
  eachAttempt := by
    rw [← attemptsOf_eq_zip]
    exact forall₂_rowsOfAttempts 1 _
  attemptIds := by
    rw [ids_rowsOfAttempts]
    exact List.pairwise_lt_range'

theorem rowsOfRecords_append (first : Nat) (a b : List Record) :
    rowsOfRecords first (a ++ b) = rowsOfRecords first a ++ rowsOfRecords (first + a.length) b := by
  unfold rowsOfRecords
  rw [List.zipIdx_append, List.map_append]

theorem attemptsOf_append (first : Nat) (a b : List Record) :
    attemptsOf first (a ++ b) = attemptsOf first a ++ attemptsOf (first + a.length) b := by
  unfold attemptsOf
  rw [List.zipIdx_append, List.flatMap_append]

/-- Numbers from one on without gaps are continued by the next one. -/
theorem nextId_range' (count : Nat) : nextId (List.range' 1 count) = 1 + count :=
  nextId_append_range' [] count

/-- The providers of the attempts of some records. -/
theorem providers_rowsOfAttempts (first record : Nat) (records : List Record) :
    (rowsOfAttempts first (attemptsOf record records)).map (·.provider)
      = records.flatMap fun r => r.attempts.map (·.1) := by
  have hrows : ∀ (first : Nat) (attempts : List (Nat × String × Attempt)),
      (rowsOfAttempts first attempts).map (·.provider) = attempts.map (·.2.1) := by
    intro first attempts
    induction attempts generalizing first with
    | nil => rfl
    | cons a rest ih => exact congrArg (a.2.1 :: ·) (ih (first + 1))
  rw [hrows]
  induction records generalizing record with
  | nil => rfl
  | cons r rest ih =>
      rw [attemptsOf_cons, List.map_append, List.map_map, ih, List.flatMap_cons]
      rfl

end LogTables

/-! ### The invariant -/

namespace EventLog

open LogTables (rowsOfRecords rowsOfAttempts attemptsOf)

/-- The log is open, and its tables hold these records and their attempts, numbered from one on. -/
structure HoldsRecords (log : EventLog) (records : List Record) : Prop where
  isOpen : log.isOpen = true
  recordRows : log.tables.records = some (rowsOfRecords 1 records)
  attemptRows : log.tables.attempts = some (rowsOfAttempts 1 (attemptsOf 1 records))

namespace HoldsRecords

variable {log log' : EventLog} {records : List Record}

theorem empty : HoldsRecords .empty [] := ⟨rfl, rfl, rfl⟩

/-- A batch of records is held behind the others. -/
theorem append (h : HoldsRecords log records) (batch : List Record) :
    HoldsRecords { log with tables := log.tables.appendRecords batch } (records ++ batch) := by
  have hrecord : log.tables.nextRecord = 1 + records.length := by
    rw [LogTables.nextRecord_of_some h.recordRows, LogTables.ids_rowsOfRecords,
      LogTables.nextId_range']
  have hattempt : LogTables.nextId ((rowsOfAttempts 1 (attemptsOf 1 records)).map (·.id))
      = 1 + (attemptsOf 1 records).length := by
    rw [LogTables.ids_rowsOfAttempts, LogTables.nextId_range']
  refine ⟨h.isOpen, ?_, ?_⟩
  · show log.tables.records.map _ = _
    rw [h.recordRows, hrecord, Option.map_some, LogTables.rowsOfRecords_append]
  · show log.tables.attempts.map _ = _
    rw [h.attemptRows, hrecord, Option.map_some, hattempt, LogTables.attemptsOf_append,
      LogTables.rowsOfAttempts_append]

/-- A step that is done adds its records and changes nothing else. -/
theorem step (h : HoldsRecords log records) {s : LogStep} (hstep : log.step s = .ok log') :
    HoldsRecords log' (records ++ s.records) := by
  rw [step_eq hstep]
  cases s with
  | insertRecords batch => exact h.append batch
  | insertEvents events =>
      show HoldsRecords _ (records ++ [])
      rw [List.append_nil]
      exact ⟨h.isOpen, h.recordRows, h.attemptRows⟩
  | wipe =>
      show HoldsRecords _ (records ++ [])
      rw [List.append_nil]
      exact ⟨h.isOpen, h.recordRows, h.attemptRows⟩
  | reopen =>
      show HoldsRecords _ (records ++ [])
      rw [List.append_nil]
      refine ⟨rfl, ?_, ?_⟩
      · show some (log.tables.records.getD []) = _
        rw [h.recordRows]
        rfl
      · show some (log.tables.attempts.getD []) = _
        rw [h.attemptRows]
        rfl

/-- Also a step of which the database carries out statements one after another. -/
theorem stepUntil (h : HoldsRecords log records) {n : Nat} {s : LogStep}
    (hstep : log.stepUntil n s = .ok log') : HoldsRecords log' (records ++ s.records) := by
  rcases stepUntil_cases n log s with hdone | ⟨-, operation, hfail⟩
  · rw [hdone] at hstep
    exact h.step hstep
  · rw [hfail] at hstep
    cases hstep

/-- What is held is counted. -/
theorem countRecords (h : HoldsRecords log records) : log.countRecords = .ok records.length := by
  unfold EventLog.countRecords openTables
  rw [h.isOpen]
  simp only [if_true, bind, Except.bind, h.recordRows]
  unfold LogTables.rowsOfRecords
  rw [List.length_map, List.length_zipIdx]

/-- The providers of the attempts that are held are read in order. -/
theorem attemptProviders (h : HoldsRecords log records) :
    log.attemptProviders = .ok (records.flatMap fun r => r.attempts.map (·.1)) := by
  have hsorted : (rowsOfAttempts 1 (attemptsOf 1 records)).mergeSort (fun a b => a.id ≤ b.id)
      = rowsOfAttempts 1 (attemptsOf 1 records) := by
    refine List.mergeSort_of_pairwise ?_
    have hids := (LogTables.linked_rows records).attemptIds
    refine (List.pairwise_map.mp hids).imp ?_
    intro a b hab
    exact decide_eq_true (Nat.le_of_lt hab)
  unfold EventLog.attemptProviders openTables
  rw [h.isOpen]
  simp only [if_true, bind, Except.bind, h.attemptRows, hsorted, LogTables.providers_rowsOfAttempts]

end HoldsRecords

/-! ### Histories -/

/-- After a history the log holds the records of the batches that were stored behind those that it
held. -/
theorem HoldsRecords.afterUntil {log : EventLog} {records : List Record}
    (h : HoldsRecords log records) (steps : List (Nat × LogStep)) :
    HoldsRecords (log.afterUntil steps)
      (records ++ (log.succeededUntil steps).flatMap LogStep.records) := by
  induction steps generalizing log records with
  | nil =>
      rw [succeededUntil, List.flatMap_nil, List.append_nil]
      exact h
  | cons s rest ih =>
      have hafter : log.afterUntil (s :: rest)
          = ((log.stepUntil s.1 s.2).toOption.getD log).afterUntil rest := rfl
      rw [hafter, succeededUntil]
      cases hstep : log.stepUntil s.1 s.2 with
      | error e => exact ih h
      | ok next =>
          have hnext := ih (h.stepUntil hstep)
          rw [List.append_assoc] at hnext
          exact hnext

/-- Whatever was done with a new log, and wherever the database gave up, the rows for records are the
records of the batches that were stored, in order; the rows for attempts are the attempts of these
records, in order, and each refers to the row of its record.  The counts and the providers that are
read are those of these records.  No further step changes either table, except for a batch of records
that is stored. -/
theorem records_linked (steps : List (Nat × LogStep)) :
    let log := EventLog.empty.afterUntil steps
    let records := (EventLog.empty.succeededUntil steps).flatMap LogStep.records
    (∃ rows attempts, log.tables.records = some rows ∧ log.tables.attempts = some attempts ∧
        Linked rows attempts records) ∧
      log.countRecords = .ok records.length ∧
      log.attemptProviders = .ok (records.flatMap fun r => r.attempts.map (·.1)) ∧
      ∀ n s, let next := log.afterUntil [(n, s)]
        next.tables.records = log.tables.records ∧ next.tables.attempts = log.tables.attempts ∨
          ∃ batch, s = .insertRecords batch ∧ log.stepUntil n s = .ok next := by
  intro log records
  have hheld : HoldsRecords log records := HoldsRecords.empty.afterUntil steps
  refine ⟨⟨_, _, hheld.recordRows, hheld.attemptRows, LogTables.linked_rows records⟩, hheld.countRecords,
    hheld.attemptProviders, ?_⟩
  intro n s next
  cases hstep : log.stepUntil n s with
  | error e =>
      have hnext : next = log := by
        show (log.stepUntil n s).toOption.getD log = log
        rw [hstep]
        rfl
      rw [hnext]
      exact Or.inl ⟨rfl, rfl⟩
  | ok stored =>
      have hnext : next = stored := by
        show (log.stepUntil n s).toOption.getD log = stored
        rw [hstep]
        rfl
      have hstored := hheld.stepUntil hstep
      rw [hnext]
      cases s with
      | insertRecords batch => exact Or.inr ⟨batch, rfl, rfl⟩
      | _ =>
          left
          rw [hstored.recordRows, hstored.attemptRows, hheld.recordRows, hheld.attemptRows]
          unfold LogStep.records
          rw [List.append_nil]
          exact ⟨rfl, rfl⟩

end EventLog

end RetrievalTelemetry
