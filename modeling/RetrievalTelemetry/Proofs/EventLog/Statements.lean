/-
Batches are stored statement by statement.

A transaction writes its rows one after another.  Each statement takes the next number of its table,
and an attempt refers to the record that was written last.  The database may give up at any point:
before the first statement, between two of them, or when everything is to be committed.  Then all that
was written is undone.  How many statements it carries out is a number that nothing is known about.

The log stores a batch in one go, and that is what comes of the statements: either the database gives
up, or the transaction ends just as it would in one go.  If it may carry out more statements than there
are, it does not give up.
-/
import RetrievalTelemetry.Proofs.EventLog.Contents

namespace RetrievalTelemetry

/-! ### Statements -/

/-- A statement: it writes one row, or it deletes all events. -/
inductive LogStatement where
  | event (e : Event)
  /-- The attempts behind it belong to this record. -/
  | record (r : Record)
  | attempt (provider : String) (attempt : Attempt)
  | deleteEvents

/-- What a transaction has done so far: the tables as it sees them, and the number of the record that
it wrote last. -/
structure LogDraft where
  tables : LogTables
  record : Nat := 0

namespace LogDraft

open LogTables (nextId)

/-- Carries out a statement. -/
def execute (d : LogDraft) : LogStatement → Except LogError LogDraft
  | .event e =>
    match d.tables.events with
    | none => .error (.failed .insertEvents)
    | some rows =>
      let row := EventRow.ofEvent (nextId (rows.map (·.id))) e
      .ok { d with tables := { d.tables with events := some (rows ++ [row]) } }
  | .record r =>
    if r.start.hasUtcYear && r.finish.hasUtcYear then
      match d.tables.records with
      | none => .error (.failed .insertRecords)
      | some rows =>
        let row := RecordRow.ofRecord (nextId (rows.map (·.id))) r
        if row.fits then
          .ok { tables := { d.tables with records := some (rows ++ [row]) }, record := row.id }
        else .error .outOfRange
    else .error .outOfRange
  | .attempt provider attempt =>
    match d.tables.attempts with
    | none => .error (.failed .insertRecords)
    | some rows =>
      let row := AttemptRow.ofAttempt (nextId (rows.map (·.id))) d.record provider attempt
      .ok { d with tables := { d.tables with attempts := some (rows ++ [row]) } }
  | .deleteEvents =>
    match d.tables.events with
    | none => .error (.failed .wipeEvents)
    | some _ => .ok { d with tables := { d.tables with events := some [] } }

/-- Carries out statements and commits them, unless the database gives up behind the first `n`; it
gives up on the commit if there are just `n` of them. -/
def run (operation : LogOperation) : (n : Nat) → List LogStatement → LogDraft →
    Except LogError LogDraft
  | 0, _, _ => .error (.failed operation)
  | _ + 1, [], d => .ok d
  | n + 1, s :: rest, d => do run operation n rest (← d.execute s)

/-- A transaction ends as its statements do, unless there are enough of them for the database to give up. -/
theorem run_cases (operation : LogOperation) (n : Nat) (statements : List LogStatement)
    (d : LogDraft) :
    run operation n statements d = statements.foldlM execute d ∨
      n ≤ statements.length ∧ run operation n statements d = .error (.failed operation) := by
  induction statements generalizing n d with
  | nil =>
      cases n with
      | zero => exact Or.inr ⟨Nat.le_refl 0, rfl⟩
      | succ n => exact Or.inl rfl
  | cons s rest ih =>
      cases n with
      | zero => exact Or.inr ⟨Nat.zero_le _, rfl⟩
      | succ n =>
          rw [List.foldlM_cons, run]
          cases d.execute s with
          | error e => exact Or.inl rfl
          | ok next =>
              rcases ih n next with hrun | ⟨hle, hrun⟩
              · exact Or.inl hrun
              · exact Or.inr ⟨Nat.succ_le_succ hle, hrun⟩

/-- A transaction does not come to its end if the database gives up before that. -/
theorem run_of_le (operation : LogOperation) {n : Nat} {statements : List LogStatement}
    (h : n ≤ statements.length) (d : LogDraft) :
    ∃ error, run operation n statements d = .error error := by
  induction statements generalizing n d with
  | nil =>
      obtain rfl : n = 0 := Nat.le_zero.mp h
      exact ⟨_, rfl⟩
  | cons s rest ih =>
      cases n with
      | zero => exact ⟨_, rfl⟩
      | succ n =>
          rw [run]
          cases d.execute s with
          | error e => exact ⟨e, rfl⟩
          | ok next => exact ih (Nat.le_of_succ_le_succ h) next

end LogDraft

/-! ### Events -/

namespace LogTables

/-- A batch of events is appended one event after another. -/
theorem appendEvents_cons (t : LogTables) (e : Event) (rest : List Event) :
    t.appendEvents (e :: rest) = (t.appendEvents [e]).appendEvents rest := by
  unfold appendEvents
  cases t.events with
  | none => rfl
  | some rows =>
      have hids := nextId_append_range' (rows.map (·.id)) 1
      simp only [Option.map_some, List.map_append, ids_rowsOfEvents, List.length_cons,
        List.length_nil, Nat.zero_add, hids, List.append_assoc]
      rfl

/-- The statements for events append them to a table that is there. -/
theorem foldlM_events_of_isSome {t : LogTables} (h : t.events.isSome) (events : List Event)
    (record : Nat) : (events.map LogStatement.event).foldlM LogDraft.execute ⟨t, record⟩
      = .ok ⟨t.appendEvents events, record⟩ := by
  induction events generalizing t with
  | nil =>
      rw [appendEvents_nil]
      rfl
  | cons e rest ih =>
      obtain ⟨rows, hrows⟩ := Option.isSome_iff_exists.mp h
      have hfirst : LogDraft.execute ⟨t, record⟩ (.event e) = .ok ⟨t.appendEvents [e], record⟩ := by
        unfold LogDraft.execute appendEvents
        dsimp only
        rw [hrows]
        rfl
      have hthere : (t.appendEvents [e]).events.isSome := by
        unfold appendEvents
        rw [hrows]
        rfl
      rw [List.map_cons, List.foldlM_cons, hfirst, appendEvents_cons t e rest]
      exact ih hthere

/-- The statements for events whose times have a year in UTC add them behind all others. -/
theorem foldlM_events (d : LogDraft) {events : List Event} (hne : events ≠ [])
    (hyears : (events.all fun e => e.phaseStart.hasUtcYear && e.time.hasUtcYear) = true) :
    ((events.map LogStatement.event).foldlM LogDraft.execute d).map (·.tables)
      = d.tables.insertEvents events := by
  obtain ⟨t, record⟩ := d
  unfold insertEvents
  rw [if_pos hyears]
  cases hrows : t.events with
  | none =>
      obtain ⟨e, rest, rfl⟩ := List.exists_cons_of_ne_nil hne
      rw [List.map_cons, List.foldlM_cons]
      unfold LogDraft.execute
      dsimp only
      rw [hrows]
      rfl
  | some rows =>
      rw [foldlM_events_of_isSome (by rw [hrows]; rfl)]
      unfold appendEvents
      rw [hrows]
      dsimp only
      rw [eventRows_eq]
      rfl

/-! ### Records -/

/-- The statements for a record with its attempts. -/
def statementsOf (r : Record) : List LogStatement :=
  .record r :: r.attempts.map fun a => .attempt a.1 a.2

/-- The statements for attempts add them behind all others. -/
theorem foldlM_attempts (d : LogDraft) (attempts : List (String × Attempt)) :
    ((attempts.map fun a => LogStatement.attempt a.1 a.2).foldlM LogDraft.execute d).map (·.tables)
      = d.tables.insertAttempts d.record attempts := by
  induction attempts generalizing d with
  | nil => rfl
  | cons a rest ih =>
      obtain ⟨t, record⟩ := d
      rw [List.map_cons, List.foldlM_cons]
      unfold insertAttempts LogDraft.execute
      cases hrows : t.attempts with
      | none => rfl
      | some rows =>
          refine (ih _).trans ?_
          unfold insertAttempts
          cases rest with
          | nil => rfl
          | cons b others =>
              let row := AttemptRow.ofAttempt (nextId (rows.map AttemptRow.id)) record a.1 a.2
              have hids : nextId ((rows ++ [row]).map AttemptRow.id)
                  = nextId (rows.map AttemptRow.id) + 1 := by
                rw [List.map_append]
                exact nextId_append_range' (rows.map AttemptRow.id) 1
              show Except.ok { t with attempts := some (rows ++ [row] ++ AttemptRow.ofAttempts
                (nextId ((rows ++ [row]).map AttemptRow.id)) record (b :: others)) } = _
              rw [hids, List.append_assoc]
              rfl

/-- The statements for a record add it, and its attempts with its number. -/
theorem foldlM_record (d : LogDraft) (r : Record) :
    ((statementsOf r).foldlM LogDraft.execute d).map (·.tables) = d.tables.insertRecord r := by
  unfold statementsOf insertRecord
  rw [List.foldlM_cons]
  unfold LogDraft.execute
  dsimp only
  split
  · cases d.tables.records with
    | none => rfl
    | some rows =>
        dsimp only
        split
        · exact foldlM_attempts _ r.attempts
        · rfl
  · rfl

/-- The statements for records add one after another. -/
theorem foldlM_records (d : LogDraft) (records : List Record) :
    ((records.flatMap statementsOf).foldlM LogDraft.execute d).map (·.tables)
      = records.foldlM insertRecord d.tables := by
  induction records generalizing d with
  | nil => rfl
  | cons r rest ih =>
      rw [List.flatMap_cons, List.foldlM_append, List.foldlM_cons, ← foldlM_record]
      cases (statementsOf r).foldlM LogDraft.execute d with
      | error e => rfl
      | ok next => exact ih next

end LogTables

/-! ### Transactions -/

namespace EventLog

/-- Carries out a transaction with the tables of a log that is open. -/
def transact (log : EventLog) (operation : LogOperation) (n : Nat) (statements : List LogStatement) :
    Except LogError EventLog := do
  let tables ← log.openTables
  let draft ← LogDraft.run operation n statements { tables := tables }
  .ok { log with tables := draft.tables }

/-- Stores events as far as the database carries out statements. -/
def insertEventsUntil (n : Nat) (log : EventLog) (events : List Event) :
    Except LogError (Nat × EventLog) :=
  if events.isEmpty then .ok (0, log)
  else do
    let _ ← log.openTables
    if events.all fun e => e.phaseStart.hasUtcYear && e.time.hasUtcYear then
      (log.transact .insertEvents n (events.map .event)).map fun log => (events.length, log)
    else .error .outOfRange

/-- Stores records with their attempts as far as the database carries out statements. -/
def insertRecordsUntil (n : Nat) (log : EventLog) (records : List Record) :
    Except LogError (Nat × EventLog) :=
  if records.isEmpty then .ok (0, log)
  else (log.transact .insertRecords n (records.flatMap LogTables.statementsOf)).map fun log =>
    (records.length, log)

/-- Tries to do one step as far as the database carries out statements. -/
def stepUntil (n : Nat) (log : EventLog) : LogStep → Except LogError EventLog
  | .insertEvents events => (log.insertEventsUntil n events).map (·.2)
  | .insertRecords records => (log.insertRecordsUntil n records).map (·.2)
  | .wipe => log.transact .wipeEvents n [.deleteEvents]
  | .reopen => .ok log.close.reopen

/-- The statements of a step. -/
def statements : LogStep → List LogStatement
  | .insertEvents events => events.map .event
  | .insertRecords records => records.flatMap LogTables.statementsOf
  | .wipe => [.deleteEvents]
  | .reopen => []

/-- What comes of a transaction if the database does not give up. -/
def transacted (log : EventLog) (statements : List LogStatement) : Except LogError EventLog := do
  let tables ← log.openTables
  let after ← (statements.foldlM LogDraft.execute { tables := tables }).map (·.tables)
  .ok { log with tables := after }

variable {log : EventLog}

theorem transact_cases (log : EventLog) (operation : LogOperation) (n : Nat)
    (statements : List LogStatement) :
    log.transact operation n statements = log.transacted statements ∨
      n ≤ statements.length ∧ log.transact operation n statements = .error (.failed operation) := by
  unfold transact transacted
  cases log.openTables with
  | error e => exact Or.inl rfl
  | ok t =>
      simp only [bind, Except.bind]
      rcases LogDraft.run_cases operation n statements { tables := t } with hrun | ⟨hle, hrun⟩
      · rw [hrun]
        left
        cases statements.foldlM LogDraft.execute { tables := t } <;> rfl
      · rw [hrun]
        exact Or.inr ⟨hle, rfl⟩

theorem transact_of_le {operation : LogOperation} {n : Nat} {statements : List LogStatement}
    (h : n ≤ statements.length) :
    ∃ error, log.transact operation n statements = .error error := by
  unfold transact
  cases log.openTables with
  | error e => exact ⟨e, rfl⟩
  | ok t =>
      obtain ⟨error, herror⟩ := LogDraft.run_of_le operation h { tables := t }
      exact ⟨error, by simp [bind, Except.bind, herror]⟩

theorem transacted_events {events : List Event} (hne : ¬events.isEmpty = true)
    (hyears : (events.all fun e => e.phaseStart.hasUtcYear && e.time.hasUtcYear) = true) :
    (log.transacted (events.map .event)).map (fun log => (events.length, log))
      = log.insertEvents events := by
  have hne' : events ≠ [] := fun hnil => hne (List.isEmpty_iff.mpr hnil)
  unfold transacted insertEvents
  rw [if_neg hne]
  cases log.openTables with
  | error e => rfl
  | ok t =>
      simp only [bind, Except.bind, LogTables.foldlM_events { tables := t } hne' hyears]
      cases t.insertEvents events <;> rfl

theorem transacted_records {records : List Record} (hne : ¬records.isEmpty = true) :
    (log.transacted (records.flatMap LogTables.statementsOf)).map (fun log => (records.length, log))
      = log.insertRecords records := by
  unfold transacted insertRecords
  rw [if_neg hne]
  cases log.openTables with
  | error e => rfl
  | ok t =>
      simp only [bind, Except.bind, LogTables.foldlM_records]
      cases records.foldlM LogTables.insertRecord t <;> rfl

theorem transacted_wipe : log.transacted [.deleteEvents] = log.wipeEvents.map (·.2) := by
  unfold transacted wipeEvents
  cases log.openTables with
  | error e => rfl
  | ok t =>
      simp only [bind, Except.bind, List.foldlM_cons, List.foldlM_nil, LogDraft.execute]
      cases t.events <;> rfl

/-- A batch of events is stored or refused in one go, or the database gives up on it. -/
theorem insertEventsUntil_cases (n : Nat) (log : EventLog) (events : List Event) :
    log.insertEventsUntil n events = log.insertEvents events ∨
      n ≤ events.length ∧ log.insertEventsUntil n events = .error (.failed .insertEvents) := by
  by_cases hnil : events.isEmpty = true
  · left
    unfold insertEventsUntil insertEvents
    rw [if_pos hnil, if_pos hnil]
  cases hopen : log.openTables with
  | error e =>
      left
      unfold insertEventsUntil insertEvents
      rw [if_neg hnil, if_neg hnil, hopen]
      rfl
  | ok t =>
      by_cases hyears :
          (events.all fun e => e.phaseStart.hasUtcYear && e.time.hasUtcYear) = true
      · rw [← transacted_events hnil hyears]
        unfold insertEventsUntil
        simp only [if_neg hnil, hopen, bind, Except.bind, if_pos hyears]
        rcases transact_cases log .insertEvents n (events.map .event) with hrun | ⟨hle, hrun⟩
        · exact Or.inl (congrArg _ hrun)
        · rw [List.length_map] at hle
          exact Or.inr ⟨hle, congrArg _ hrun⟩
      · left
        unfold insertEventsUntil insertEvents LogTables.insertEvents
        simp only [if_neg hnil, hopen, bind, Except.bind, if_neg hyears]

/-- A batch of records is stored or refused in one go, or the database gives up on it. -/
theorem insertRecordsUntil_cases (n : Nat) (log : EventLog) (records : List Record) :
    log.insertRecordsUntil n records = log.insertRecords records ∨
      n ≤ (records.flatMap LogTables.statementsOf).length ∧
        log.insertRecordsUntil n records = .error (.failed .insertRecords) := by
  by_cases hnil : records.isEmpty = true
  · left
    unfold insertRecordsUntil insertRecords
    rw [if_pos hnil, if_pos hnil]
  rw [← transacted_records hnil]
  unfold insertRecordsUntil
  rw [if_neg hnil]
  rcases transact_cases log .insertRecords n (records.flatMap LogTables.statementsOf) with
    hrun | ⟨hle, hrun⟩
  · exact Or.inl (congrArg _ hrun)
  · exact Or.inr ⟨hle, congrArg _ hrun⟩

/-- A batch of events is not stored if the database gives up behind any of its rows. -/
theorem insertEventsUntil_of_le {n : Nat} {events : List Event} (hne : events ≠ [])
    (h : n ≤ events.length) : ∃ error, log.insertEventsUntil n events = .error error := by
  have hnil : ¬events.isEmpty = true := fun hnil => hne (List.isEmpty_iff.mp hnil)
  unfold insertEventsUntil
  rw [if_neg hnil]
  cases log.openTables with
  | error e => exact ⟨e, rfl⟩
  | ok t =>
      simp only [bind, Except.bind]
      split
      · have hle : n ≤ (events.map LogStatement.event).length := by rwa [List.length_map]
        obtain ⟨error, herror⟩ := @transact_of_le log .insertEvents n _ hle
        exact ⟨error, by rw [herror]; rfl⟩
      · exact ⟨_, rfl⟩

/-- Nor is a batch of records, behind a record or one of its attempts. -/
theorem insertRecordsUntil_of_le {n : Nat} {records : List Record} (hne : records ≠ [])
    (h : n ≤ (records.flatMap LogTables.statementsOf).length) :
    ∃ error, log.insertRecordsUntil n records = .error error := by
  have hnil : ¬records.isEmpty = true := fun hnil => hne (List.isEmpty_iff.mp hnil)
  obtain ⟨error, herror⟩ := @transact_of_le log .insertRecords n _ h
  unfold insertRecordsUntil
  rw [if_neg hnil, herror]
  exact ⟨error, rfl⟩

/-- A step is done in one go, or the database gives up on it; it does not if it may carry out more
statements than there are. -/
theorem stepUntil_cases (n : Nat) (log : EventLog) (s : LogStep) :
    log.stepUntil n s = log.step s ∨
      n ≤ (statements s).length ∧ ∃ operation, log.stepUntil n s = .error (.failed operation) := by
  cases s with
  | insertEvents events =>
      rcases insertEventsUntil_cases n log events with hdone | ⟨hle, hfail⟩
      · exact Or.inl (congrArg (Except.map Prod.snd) hdone)
      · refine Or.inr ⟨?_, _, congrArg (Except.map Prod.snd) hfail⟩
        unfold statements
        rwa [List.length_map]
  | insertRecords records =>
      rcases insertRecordsUntil_cases n log records with hdone | ⟨hle, hfail⟩
      · exact Or.inl (congrArg (Except.map Prod.snd) hdone)
      · exact Or.inr ⟨hle, _, congrArg (Except.map Prod.snd) hfail⟩
  | wipe =>
      rcases transact_cases log .wipeEvents n [.deleteEvents] with hdone | ⟨hle, hfail⟩
      · exact Or.inl (hdone.trans transacted_wipe)
      · exact Or.inr ⟨hle, _, hfail⟩
  | reopen => exact Or.inl rfl

end EventLog

end RetrievalTelemetry
