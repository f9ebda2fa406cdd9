/-
What a batch adds to the log.

A batch that is stored is put behind the rows that are there, in its own order, under numbers that
follow the greatest one of its table.  `appendEvents` and `appendRecords` say this of a whole batch
at once, and what the operations do row by row comes to the same.  Nothing is said here of a batch
that is not stored, because then there is no new log at all.
-/
import Mathlib.Data.List.Basic
import RetrievalTelemetry.EventLog.Store

namespace RetrievalTelemetry

namespace LogTables

/-! ### Numbers -/

/-- All rows have numbers below the next one. -/
theorem lt_nextId {ids : List Nat} {n : Nat} (h : n ∈ ids) : n < nextId ids :=
  Nat.lt_succ_of_le (List.le_max?_getD_of_mem h)

/-- Behind a row with the greatest number comes the one after it. -/
theorem nextId_concat {ids : List Nat} {n : Nat} (h : ∀ m ∈ ids, m < n) :
    nextId (ids ++ [n]) = n + 1 := by
  have hmax : (ids ++ [n]).max? = some n := by
    refine List.max?_eq_some_iff.mpr ⟨by simp, ?_⟩
    intro m hm
    rcases List.mem_append.mp hm with hm | hm
    · exact Nat.le_of_lt (h m hm)
    · exact Nat.le_of_eq (List.mem_singleton.mp hm)
  unfold nextId
  rw [hmax]
  rfl

/-- Rows that are numbered from the next number on leave the number behind them. -/
theorem nextId_append_range' (ids : List Nat) (count : Nat) :
    nextId (ids ++ List.range' (nextId ids) count) = nextId ids + count := by
  induction count with
  | zero => simp
  | succ count ih =>
      have hlast : List.range' (nextId ids) (count + 1)
          = List.range' (nextId ids) count ++ [nextId ids + count] := by
        rw [List.range'_concat]
        simp
      rw [hlast, ← List.append_assoc, nextId_concat]
      · omega
      · intro m hm
        have := lt_nextId hm
        omega

/-! ### Events -/

/-- The rows for a batch of events, numbered from `first`. -/
def rowsOfEvents (first : Nat) (events : List Event) : List EventRow :=
  (events.zipIdx first).map fun e => EventRow.ofEvent e.2 e.1

/-- The tables with a batch of events behind all others. -/
def appendEvents (t : LogTables) (events : List Event) : LogTables :=
  { t with events := t.events.map fun rows =>
      rows ++ rowsOfEvents (nextId (rows.map (·.id))) events }

theorem appendEvents_nil (t : LogTables) : t.appendEvents [] = t := by
  have hsame : (fun rows : List EventRow => rows ++ rowsOfEvents (nextId (rows.map (·.id))) [])
      = id := by
    funext rows
    exact List.append_nil rows
  unfold appendEvents
  rw [hsame, Option.map_id]
  rfl

theorem eventRows_eq (first : Nat) (events : List Event) :
    eventRows first events = rowsOfEvents first events := by
  induction events generalizing first with
  | nil => rfl
  | cons e rest ih =>
      rw [eventRows, ih]
      rfl

theorem ids_rowsOfEvents (first : Nat) (events : List Event) :
    (rowsOfEvents first events).map (·.id) = List.range' first events.length := by
  unfold rowsOfEvents
  rw [List.map_map, ← List.zipIdx_map_snd first events]
  rfl

/-- Events that are stored are appended. -/
theorem insertEvents_eq {t t' : LogTables} {events : List Event}
    (h : t.insertEvents events = .ok t') : t' = t.appendEvents events := by
  unfold insertEvents at h
  split at h
  · cases hrows : t.events with
    | none =>
        rw [hrows] at h
        cases h
    | some rows =>
        rw [hrows] at h
        cases h
        unfold appendEvents
        rw [hrows, eventRows_eq]
        rfl
  · cases h

/-! ### Records -/

/-- The rows for a batch of records, numbered from `first`. -/
def rowsOfRecords (first : Nat) (records : List Record) : List RecordRow :=
  (records.zipIdx first).map fun r => RecordRow.ofRecord r.2 r.1

/-- The attempts of a batch of records, each with the number of the row of its record, which are
numbered from `first`. -/
def attemptsOf (first : Nat) (records : List Record) : List (Nat × String × Attempt) :=
  (records.zipIdx first).flatMap fun r => r.1.attempts.map fun attempt => (r.2, attempt)

/-- The rows for attempts, numbered from `first`. -/
def rowsOfAttempts (first : Nat) (attempts : List (Nat × String × Attempt)) : List AttemptRow :=
  (attempts.zipIdx first).map fun a => AttemptRow.ofAttempt a.2 a.1.1 a.1.2.1 a.1.2.2

def nextRecord (t : LogTables) : Nat := nextId ((t.records.getD []).map (·.id))

theorem nextRecord_of_some {t : LogTables} {rows : List RecordRow} (h : t.records = some rows) :
    t.nextRecord = nextId (rows.map (·.id)) := by
  unfold nextRecord
  rw [h]
  rfl

/-- The tables with a batch of records behind all others, and their attempts behind all others. -/
def appendRecords (t : LogTables) (records : List Record) : LogTables :=
  { t with
    records := t.records.map fun rows => rows ++ rowsOfRecords t.nextRecord records
    attempts := t.attempts.map fun rows =>
      rows ++ rowsOfAttempts (nextId (rows.map (·.id))) (attemptsOf t.nextRecord records) }

theorem appendRecords_nil (t : LogTables) : t.appendRecords [] = t := by
  have hrecords : t.records.map (fun rows => rows ++ rowsOfRecords t.nextRecord [])
      = t.records := by
    cases t.records with
    | none => rfl
    | some rows => exact congrArg some (List.append_nil rows)
  have hattempts : t.attempts.map (fun rows =>
      rows ++ rowsOfAttempts (nextId (rows.map (·.id))) (attemptsOf t.nextRecord []))
      = t.attempts := by
    cases t.attempts with
    | none => rfl
    | some rows => exact congrArg some (List.append_nil rows)
  unfold appendRecords
  rw [hrecords, hattempts]

theorem ids_rowsOfRecords (first : Nat) (records : List Record) :
    (rowsOfRecords first records).map (·.id) = List.range' first records.length := by
  unfold rowsOfRecords
  rw [List.map_map, ← List.zipIdx_map_snd first records]
  rfl

theorem ids_rowsOfAttempts (first : Nat) (attempts : List (Nat × String × Attempt)) :
    (rowsOfAttempts first attempts).map (·.id) = List.range' first attempts.length := by
  unfold rowsOfAttempts
  rw [List.map_map, ← List.zipIdx_map_snd first attempts]
  rfl

theorem ofAttempts_eq (first record : Nat) (attempts : List (String × Attempt)) :
    AttemptRow.ofAttempts first record attempts
      = rowsOfAttempts first (attempts.map fun attempt => (record, attempt)) := by
  induction attempts generalizing first with
  | nil => rfl
  | cons attempt rest ih =>
      rw [AttemptRow.ofAttempts, ih]
      rfl

theorem rowsOfAttempts_append (first : Nat) (a b : List (Nat × String × Attempt)) :
    rowsOfAttempts first (a ++ b)
      = rowsOfAttempts first a ++ rowsOfAttempts (first + a.length) b := by
  unfold rowsOfAttempts
  rw [List.zipIdx_append, List.map_append]

theorem attemptsOf_cons (first : Nat) (r : Record) (rest : List Record) :
    attemptsOf first (r :: rest)
      = r.attempts.map (fun attempt => (first, attempt)) ++ attemptsOf (first + 1) rest := by
  unfold attemptsOf
  rw [List.zipIdx_cons, List.flatMap_cons]

theorem attemptsOf_singleton (first : Nat) (r : Record) :
    attemptsOf first [r] = r.attempts.map fun attempt => (first, attempt) := by
  rw [attemptsOf_cons]
  exact List.append_nil _

theorem nextRecord_appendRecords {t : LogTables} (h : t.records.isSome) (records : List Record) :
    (t.appendRecords records).nextRecord = t.nextRecord + records.length := by
  obtain ⟨rows, hrows⟩ := Option.isSome_iff_exists.mp h
  have hnext := nextRecord_of_some hrows
  have hids : ((t.appendRecords records).records.getD []).map (·.id)
      = rows.map (·.id) ++ List.range' (nextId (rows.map (·.id))) records.length := by
    rw [← hnext, ← ids_rowsOfRecords, ← List.map_append]
    unfold appendRecords
    rw [hrows]
    rfl
  rw [nextRecord, hids, nextId_append_range', ← hnext]

/-- A batch of records is appended one record after another. -/
theorem appendRecords_cons {t : LogTables} (h : t.records.isSome) (r : Record)
    (rest : List Record) :
    t.appendRecords (r :: rest) = (t.appendRecords [r]).appendRecords rest := by
  have hnext : (t.appendRecords [r]).nextRecord = t.nextRecord + 1 := nextRecord_appendRecords h [r]
  have hrecords : (t.appendRecords (r :: rest)).records
      = ((t.appendRecords [r]).appendRecords rest).records := by
    show _ = ((t.appendRecords [r]).records).map fun rows => rows ++ rowsOfRecords _ rest
    rw [hnext]
    cases hrows : t.records with
    | none => simp [appendRecords, hrows]
    | some rows => simp [appendRecords, hrows, rowsOfRecords, List.zipIdx_cons]
  -- The attempts of the others are numbered from behind those of the first.
  have hattempts : (t.appendRecords (r :: rest)).attempts
      = ((t.appendRecords [r]).appendRecords rest).attempts := by
    show _ = ((t.appendRecords [r]).attempts).map fun rows =>
      rows ++ rowsOfAttempts (nextId (rows.map (·.id))) (attemptsOf _ rest)
    rw [hnext]
    cases hrows : t.attempts with
    | none => simp [appendRecords, hrows]
    | some rows =>
        have hids := nextId_append_range' (rows.map (·.id)) (attemptsOf t.nextRecord [r]).length
        rw [← ids_rowsOfAttempts, ← List.map_append] at hids
        simp only [appendRecords, hrows, Option.map_some, Option.some.injEq]
        rw [hids, attemptsOf_cons, attemptsOf_singleton, rowsOfAttempts_append, List.append_assoc]
  calc t.appendRecords (r :: rest)
      = ⟨t.events, (t.appendRecords (r :: rest)).records,
          (t.appendRecords (r :: rest)).attempts⟩ := rfl
    _ = ⟨t.events, ((t.appendRecords [r]).appendRecords rest).records,
          ((t.appendRecords [r]).appendRecords rest).attempts⟩ := by rw [hrecords, hattempts]
    _ = (t.appendRecords [r]).appendRecords rest := rfl

/-- A record that is stored is appended. -/
theorem insertRecord_eq {t t' : LogTables} {r : Record} (h : t.insertRecord r = .ok t') :
    t.records.isSome ∧ t' = t.appendRecords [r] := by
  unfold insertRecord at h
  split at h
  · cases hrows : t.records with
    | none =>
        rw [hrows] at h
        cases h
    | some rows =>
        rw [hrows] at h
        dsimp only at h
        have hnext := nextRecord_of_some hrows
        have hone := attemptsOf_singleton t.nextRecord r
        split at h
        · refine ⟨rfl, ?_⟩
          unfold insertAttempts at h
          split at h
          · rename_i hnone
            cases h
            have hattempts : attemptsOf t.nextRecord [r] = [] := by
              rw [hone, List.isEmpty_iff.mp hnone]
              rfl
            unfold appendRecords
            rw [hrows, ← hnext, hattempts]
            cases hkept : t.attempts with
            | none => rfl
            | some kept => simp [rowsOfRecords, rowsOfAttempts]
          · cases hkept : t.attempts with
            | none =>
                rw [hkept] at h
                cases h
            | some kept =>
                rw [hkept] at h
                cases h
                unfold appendRecords
                rw [hrows, hkept, ← hnext, hone, ofAttempts_eq]
                rfl
        · cases h
  · cases h

/-- Records that are stored are appended. -/
theorem insertRecords_eq {t t' : LogTables} {records : List Record}
    (h : records.foldlM insertRecord t = .ok t') : t' = t.appendRecords records := by
  induction records generalizing t with
  | nil =>
      cases h
      exact (appendRecords_nil _).symm
  | cons r rest ih =>
      rw [List.foldlM_cons] at h
      cases hfirst : t.insertRecord r with
      | error error =>
          rw [hfirst] at h
          cases h
      | ok first =>
          rw [hfirst] at h
          obtain ⟨hthere, rfl⟩ := insertRecord_eq hfirst
          rw [appendRecords_cons hthere]
          exact ih h

end LogTables

namespace EventLog

variable {log log' : EventLog} {count : Nat}

/-- A batch of events that is stored is appended, and its length is the answer. -/
theorem insertEvents_eq {events : List Event} (h : log.insertEvents events = .ok (count, log')) :
    count = events.length ∧ log' = { log with tables := log.tables.appendEvents events } := by
  unfold insertEvents openTables at h
  split at h
  · rename_i hnone
    cases h
    rw [List.isEmpty_iff.mp hnone, LogTables.appendEvents_nil]
    exact ⟨rfl, rfl⟩
  · split at h
    · cases hstored : log.tables.insertEvents events with
      | error error =>
          simp only [bind, Except.bind, hstored] at h
          cases h
      | ok tables =>
          simp only [bind, Except.bind, hstored] at h
          cases h
          rw [LogTables.insertEvents_eq hstored]
          exact ⟨rfl, rfl⟩
    · cases h

/-- A batch of records that is stored is appended, and its length is the answer. -/
theorem insertRecords_eq {records : List Record}
    (h : log.insertRecords records = .ok (count, log')) :
    count = records.length ∧ log' = { log with tables := log.tables.appendRecords records } := by
  unfold insertRecords openTables at h
  split at h
  · rename_i hnone
    cases h
    rw [List.isEmpty_iff.mp hnone, LogTables.appendRecords_nil]
    exact ⟨rfl, rfl⟩
  · split at h
    · cases hstored : records.foldlM LogTables.insertRecord log.tables with
      | error error =>
          simp only [bind, Except.bind, hstored] at h
          cases h
      | ok tables =>
          simp only [bind, Except.bind, hstored] at h
          cases h
          rw [LogTables.insertRecords_eq hstored]
          exact ⟨rfl, rfl⟩
    · cases h

end EventLog

end RetrievalTelemetry
