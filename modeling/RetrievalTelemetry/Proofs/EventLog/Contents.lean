/-
What a log holds, and what one step makes of it.

One step is a batch of events or of records that somebody tries to store, a wipe, or that the log is
closed and opened again.

Two things have to be shown.  One concerns a single row: what is written for an event is read
as the same event, although its offsets are gone and its tags, its provider and its details have
other forms in the row.  The other concerns the table: rows are read in the order of their numbers,
and since a wipe lets the numbers begin again, it is an invariant that they grow along the table.
-/
import Mathlib.Data.List.Forall2
import RetrievalTelemetry.Proofs.EventLog.Append
import RetrievalTelemetry.Proofs.Report.Offset

namespace RetrievalTelemetry

/-! ### Writing and reading a row -/

theorem Phase.ofName_name (p : Phase) : Phase.ofName p.name = .ok p := by
  cases p <;> rfl

theorem EventCode.ofName_name (c : EventCode) : EventCode.ofName c.name = .ok c := by
  cases c <;> rfl

/-- A time in UTC that is read back from the wall is the same point, shown in UTC. -/
theorem Timestamp.inUtc_wall (t : Timestamp) : t.toUtc.wall.inUtc = t.toUtc := by
  unfold toUtc wall WallTime.inUtc
  simp

theorem EventRow.getD_detailsColumn (raw : Json) : (detailsColumn raw).getD .null = raw := by
  cases raw <;> rfl

/-- The row of an event is read as the event in UTC. -/
theorem EventRow.event?_ofEvent (id : Nat) (e : Event) : (ofEvent id e).event? = some e.inUtc := by
  unfold event? ofEvent
  simp only [Phase.ofName_name, EventCode.ofName_name, Timestamp.inUtc_wall, getD_detailsColumn]
  rfl

/-- What an event that was read has in common with the event that was stored: everything but the
offsets of its times, which are those of UTC. -/
structure Event.ReadBack (stored read : Event) : Prop where
  retrieval : read.retrieval = stored.retrieval
  instanceId : read.instanceId = stored.instanceId
  cid : read.cid = stored.cid
  provider : read.provider = stored.provider
  phase : read.phase = stored.phase
  code : read.code = stored.code
  raw : read.raw = stored.raw
  detail : read.detail? = stored.detail?
  phaseStart : read.phaseStart.micros = stored.phaseStart.micros ∧ read.phaseStart.offset = 0
  time : read.time.micros = stored.time.micros ∧ read.time.offset = 0

theorem Event.readBack_inUtc (e : Event) : e.ReadBack e.inUtc :=
  ⟨rfl, rfl, rfl, rfl, rfl, rfl, rfl, rfl, ⟨rfl, rfl⟩, ⟨rfl, rfl⟩⟩

/-! ### Steps -/

/-- What is done with a log. -/
inductive LogStep where
  | insertEvents (events : List Event)
  | insertRecords (records : List Record)
  | wipe
  /-- The log is closed and opened again. -/
  | reopen

/-- The events that a step brings. -/
def LogStep.events : LogStep → List Event
  | insertEvents events => events
  | _ => []

/-- Whether a step wipes the events. -/
def LogStep.isWipe : LogStep → Bool
  | wipe => true
  | _ => false

namespace EventLog

/-- Tries to do one step. -/
def step (log : EventLog) : LogStep → Except LogError EventLog
  | .insertEvents events => (log.insertEvents events).map (·.2)
  | .insertRecords records => (log.insertRecords records).map (·.2)
  | .wipe => log.wipeEvents.map (·.2)
  | .reopen => .ok log.close.reopen

/-- What a step that does not fail makes of a log. -/
def done (log : EventLog) : LogStep → EventLog
  | .insertEvents events => { log with tables := log.tables.appendEvents events }
  | .insertRecords records => { log with tables := log.tables.appendRecords records }
  | .wipe => { log with tables := { log.tables with events := some [] } }
  | .reopen => log.close.reopen

theorem step_eq {log log' : EventLog} {s : LogStep} (h : log.step s = .ok log') :
    log' = log.done s := by
  cases s with
  | insertEvents events =>
      cases hstored : log.insertEvents events with
      | error error =>
          simp only [step, hstored] at h
          cases h
      | ok stored =>
          simp only [step, hstored] at h
          cases h
          exact (insertEvents_eq hstored).2
  | insertRecords records =>
      cases hstored : log.insertRecords records with
      | error error =>
          simp only [step, hstored] at h
          cases h
      | ok stored =>
          simp only [step, hstored] at h
          cases h
          exact (insertRecords_eq hstored).2
  | wipe =>
      unfold step wipeEvents openTables at h
      cases hopen : log.isOpen with
      | false =>
          simp only [hopen] at h
          cases h
      | true =>
          cases hrows : log.tables.events with
          | none =>
              simp only [hopen, hrows, if_true, bind, Except.bind] at h
              cases h
          | some rows =>
              simp only [hopen, hrows, if_true, bind, Except.bind] at h
              cases h
              unfold done
              rw [hopen]
  | reopen =>
      cases h
      rfl

/-! ### The invariant -/

/-- The log is open, and its table of events holds these events under growing numbers. -/
structure Holds (log : EventLog) (events : List Event) : Prop where
  isOpen : log.isOpen = true
  rows : ∃ rows, log.tables.events = some rows ∧
    (rows.map (·.id)).Pairwise (· < ·) ∧
    rows.map EventRow.event? = events.map fun e => some e.inUtc

/-- A read that succeeds at every row succeeds. -/
theorem mapM_of_map_eq {α β : Type} {f : α → Option β} {l : List α} {read : List β}
    (h : l.map f = read.map some) : l.mapM f = some read := by
  induction l generalizing read with
  | nil =>
      cases read with
      | nil => rfl
      | cons b rest => cases h
  | cons a rest ih =>
      cases read with
      | nil => cases h
      | cons b others =>
          rw [List.map_cons, List.map_cons] at h
          obtain ⟨ha, hrest⟩ := List.cons.inj h
          rw [List.mapM_cons, ha, ih hrest]
          rfl

namespace Holds

variable {log : EventLog} {events : List Event}

theorem empty : Holds .empty [] :=
  ⟨rfl, [], rfl, List.Pairwise.nil, rfl⟩

/-- What is held is read. -/
theorem fetchEvents (h : Holds log events) : log.fetchEvents = .ok (events.map Event.inUtc) := by
  obtain ⟨rows, hrows, hids, hread⟩ := h.rows
  have hsorted : rows.mergeSort (fun a b => a.id ≤ b.id) = rows := by
    refine List.mergeSort_of_pairwise ?_
    refine (List.pairwise_map.mp hids).imp ?_
    intro a b hab
    exact decide_eq_true (Nat.le_of_lt hab)
  have hall : rows.mapM EventRow.event? = some (events.map Event.inUtc) := by
    refine mapM_of_map_eq ?_
    rw [hread, List.map_map]
    rfl
  unfold EventLog.fetchEvents openTables
  rw [h.isOpen]
  simp [bind, Except.bind, hrows, hsorted, hall]

/-- A batch of events that is appended is held behind the others. -/
theorem append (h : Holds log events) (batch : List Event) :
    Holds { log with tables := log.tables.appendEvents batch } (events ++ batch) := by
  obtain ⟨rows, hrows, hids, hread⟩ := h.rows
  refine ⟨h.isOpen, rows ++ LogTables.rowsOfEvents (LogTables.nextId (rows.map (·.id))) batch, ?_,
    ?_, ?_⟩
  · show log.tables.events.map _ = _
    rw [hrows]
    rfl
  · rw [List.map_append, LogTables.ids_rowsOfEvents]
    refine List.pairwise_append.mpr ⟨hids, List.pairwise_lt_range', ?_⟩
    intro old hold new hnew
    have hlt := LogTables.lt_nextId hold
    have hle := (List.mem_range'_1.mp hnew).1
    omega
  · rw [List.map_append, List.map_append, hread]
    refine congrArg (events.map (fun e => some e.inUtc) ++ ·) ?_
    unfold LogTables.rowsOfEvents
    rw [List.map_map]
    have hevent : EventRow.event? ∘ (fun e : Event × Nat => EventRow.ofEvent e.2 e.1)
        = (fun e : Event => some e.inUtc) ∘ Prod.fst := by
      funext e
      exact EventRow.event?_ofEvent e.2 e.1
    rw [hevent, ← List.map_map, List.zipIdx_map_fst]

/-- A batch of events that is stored is held behind the others. -/
theorem insertEvents (h : Holds log events) {batch : List Event} {count : Nat} {log' : EventLog}
    (hstored : log.insertEvents batch = .ok (count, log')) : Holds log' (events ++ batch) := by
  rw [(insertEvents_eq hstored).2]
  exact h.append batch

/-- A batch of events is stored exactly if all its times have a year in UTC. -/
theorem insertEvents_iff (h : Holds log events) (batch : List Event) :
    (∃ next, log.step (.insertEvents batch) = .ok next) ↔
      ∀ e ∈ batch, e.phaseStart.hasUtcYear = true ∧ e.time.hasUtcYear = true := by
  obtain ⟨rows, hrows, -, -⟩ := h.rows
  have hall : (batch.all fun e => e.phaseStart.hasUtcYear && e.time.hasUtcYear) = true ↔
      ∀ e ∈ batch, e.phaseStart.hasUtcYear = true ∧ e.time.hasUtcYear = true := by
    simp
  rw [← hall]
  cases batch with
  | nil =>
      refine ⟨fun _ => rfl, fun _ => ⟨log, rfl⟩⟩
  | cons e rest =>
      simp only [EventLog.step, EventLog.insertEvents, List.isEmpty_cons, Bool.false_eq_true,
        if_false, openTables, h.isOpen, if_true, bind, Except.bind, LogTables.insertEvents, hrows]
      by_cases hyears : ((e :: rest).all fun e => e.phaseStart.hasUtcYear && e.time.hasUtcYear) = true
      · rw [if_pos hyears]
        exact ⟨fun _ => hyears, fun _ => ⟨_, rfl⟩⟩
      · rw [if_neg hyears]
        refine ⟨?_, fun hyes => absurd hyes hyears⟩
        rintro ⟨next, hnext⟩
        cases hnext

/-- A step that succeeds does to what is held what it says. -/
theorem step (h : Holds log events) {s : LogStep} {log' : EventLog} (hstep : log.step s = .ok log') :
    Holds log' (if s.isWipe then [] else events ++ s.events) := by
  rw [step_eq hstep]
  cases s with
  | insertEvents batch => exact h.append batch
  | insertRecords records =>
      show Holds _ (events ++ [])
      rw [List.append_nil]
      exact ⟨h.isOpen, h.rows⟩
  | wipe => exact ⟨h.isOpen, [], rfl, List.Pairwise.nil, rfl⟩
  | reopen =>
      show Holds _ (events ++ [])
      rw [List.append_nil]
      obtain ⟨rows, hrows, hids, hread⟩ := h.rows
      refine ⟨rfl, rows, ?_, hids, hread⟩
      show some (log.tables.events.getD []) = some rows
      rw [hrows]
      rfl

end Holds

end EventLog

end RetrievalTelemetry
