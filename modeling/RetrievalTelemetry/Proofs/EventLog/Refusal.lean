/-
What keeps a valid batch out of the log.

An open log stores a batch, or the database gives up on it, or a table is missing.  In the last two
cases the operation fails.  But a batch that was found valid may also hold a value that no column takes:
a time whose year in UTC is not from 1 to 9999, or a count that needs more than 64 bits.  Such a batch
is refused in another way, which nobody expects.  `Storable` says which items have no such value; all
other columns take everything that is valid.
-/
import RetrievalTelemetry.Intake.EventBatch
import RetrievalTelemetry.Proofs.EventLog.Statements
import RetrievalTelemetry.Proofs.Intake.Record

namespace RetrievalTelemetry

/-! ### Values that columns take -/

/-- The times of the event have a year from 1 to 9999 in UTC. -/
structure Event.Storable (e : Event) : Prop where
  phaseStart : e.phaseStart.hasUtcYear = true
  time : e.time.hasUtcYear = true

/-- The times of the record have a year from 1 to 9999 in UTC, and its counts are below `2 ^ 63`. -/
structure Record.Storable (r : Record) : Prop where
  start : r.start.hasUtcYear = true
  finish : r.finish.hasUtcYear = true
  bandwidth : r.bandwidth < 0x8000000000000000
  bytes : r.bytes < 0x8000000000000000
  candidates : r.candidates < 0x8000000000000000
  filtered : r.filtered < 0x8000000000000000

namespace RecordRow

theorem fitsColumn_iff {n : Int} (h : 0 ≤ n) :
    fitsColumn n = true ↔ n < 0x8000000000000000 := by
  unfold fitsColumn
  rw [Bool.and_eq_true, decide_eq_true_iff, decide_eq_true_iff]
  omega

/-- The milliseconds of every span that can be given fit into a column. -/
theorem fitsColumn_toMillis {d : Duration} (h : d.inRange = true) : fitsColumn d.toMillis = true := by
  unfold Duration.inRange Duration.minMicros Duration.maxMicros at h
  unfold fitsColumn Duration.toMillis
  rw [Bool.and_eq_true, decide_eq_true_iff, decide_eq_true_iff] at h ⊢
  rw [Int.fdiv_eq_ediv_of_nonneg _ (by decide)]
  omega

/-- The row of a valid record fits if its counts do. -/
theorem fits_ofRecord_iff {r : Record} (h : r.WellFormed) (id : Nat) :
    (ofRecord id r).fits = true ↔
      r.bandwidth < 0x8000000000000000 ∧ r.bytes < 0x8000000000000000 ∧
        r.candidates < 0x8000000000000000 ∧ r.filtered < 0x8000000000000000 := by
  unfold fits ofRecord
  simp only [List.all_cons, List.all_nil, Bool.and_true, Bool.and_eq_true,
    fitsColumn_toMillis h.firstByte, fitsColumn_toMillis h.firstCandidate, true_and,
    fitsColumn_iff h.bandwidth, fitsColumn_iff h.bytes, fitsColumn_iff h.candidates,
    fitsColumn_iff h.filtered]

end RecordRow

/-- The rows for the attempts of a valid record fit as they are. -/
theorem AttemptRow.fitsColumn_ofAttempt {r : Record} (h : r.WellFormed) {entry : String × Attempt}
    (hentry : entry ∈ r.attempts) (id record : Nat) :
    RecordRow.fitsColumn (ofAttempt id record entry.1 entry.2).firstByteMillis = true :=
  RecordRow.fitsColumn_toMillis (h.attempts entry hentry)

theorem Record.storable_iff {r : Record} (h : r.WellFormed) (id : Nat) :
    r.Storable ↔ (r.start.hasUtcYear && r.finish.hasUtcYear) = true ∧
      (RecordRow.ofRecord id r).fits = true := by
  rw [RecordRow.fits_ofRecord_iff h, Bool.and_eq_true]
  constructor
  · intro hfits
    exact ⟨⟨hfits.start, hfits.finish⟩, hfits.bandwidth, hfits.bytes, hfits.candidates,
      hfits.filtered⟩
  · rintro ⟨⟨hstart, hfinish⟩, hbandwidth, hbytes, hcandidates, hfiltered⟩
    exact ⟨hstart, hfinish, hbandwidth, hbytes, hcandidates, hfiltered⟩

/-! ### Tables -/

namespace LogTables

/-- A batch of events is stored, or the table is missing, or one of them is not storable. -/
theorem insertEvents_cases (t : LogTables) (events : List Event) :
    (∃ t', t.insertEvents events = .ok t') ∧ (∀ e ∈ events, e.Storable) ∨
      t.insertEvents events = .error (.failed .insertEvents) ∧ t.events = none ∨
        t.insertEvents events = .error .outOfRange ∧ ∃ e ∈ events, ¬e.Storable := by
  unfold insertEvents
  by_cases hyears : (events.all fun e => e.phaseStart.hasUtcYear && e.time.hasUtcYear) = true
  · rw [if_pos hyears]
    cases t.events with
    | none => exact Or.inr (Or.inl ⟨rfl, rfl⟩)
    | some rows =>
        refine Or.inl ⟨⟨_, rfl⟩, ?_⟩
        intro e he
        have hboth := List.all_eq_true.mp hyears e he
        rw [Bool.and_eq_true] at hboth
        exact ⟨hboth.1, hboth.2⟩
  · rw [if_neg hyears]
    refine Or.inr (Or.inr ⟨rfl, ?_⟩)
    by_contra hall
    push Not at hall
    refine hyears (List.all_eq_true.mpr ?_)
    intro e he
    rw [(hall e he).phaseStart, (hall e he).time]
    rfl

/-- A valid record is stored, or a table is missing, or it is not storable. -/
theorem insertRecord_cases (t : LogTables) {r : Record} (h : r.WellFormed) :
    (∃ t', t.insertRecord r = .ok t') ∧ r.Storable ∨
      t.insertRecord r = .error (.failed .insertRecords) ∧ (t.records = none ∨ t.attempts = none) ∨
        t.insertRecord r = .error .outOfRange ∧ ¬r.Storable := by
  unfold insertRecord
  by_cases hyears : (r.start.hasUtcYear && r.finish.hasUtcYear) = true
  swap
  · rw [if_neg hyears]
    exact Or.inr (Or.inr ⟨rfl, fun hfits => hyears ((Record.storable_iff h 0).mp hfits).1⟩)
  rw [if_pos hyears]
  cases hrows : t.records with
  | none => exact Or.inr (Or.inl ⟨rfl, Or.inl rfl⟩)
  | some rows =>
      dsimp only
      have hstorable := Record.storable_iff h (nextId (rows.map (·.id)))
      by_cases hfits : (RecordRow.ofRecord (nextId (rows.map (·.id))) r).fits = true
      · rw [if_pos hfits]
        unfold insertAttempts
        split
        · exact Or.inl ⟨⟨_, rfl⟩, hstorable.mpr ⟨hyears, hfits⟩⟩
        · cases hattempts : t.attempts with
          | none => exact Or.inr (Or.inl ⟨rfl, Or.inr rfl⟩)
          | some kept => exact Or.inl ⟨⟨_, rfl⟩, hstorable.mpr ⟨hyears, hfits⟩⟩
      · rw [if_neg hfits]
        exact Or.inr (Or.inr ⟨rfl, fun hfits' => hfits (hstorable.mp hfits').2⟩)

/-- A batch of valid records is stored, or a table is missing, or one of them is not storable. -/
theorem insertRecords_cases (t : LogTables) {records : List Record}
    (h : ∀ r ∈ records, r.WellFormed) :
    (∃ t', records.foldlM insertRecord t = .ok t') ∧ (∀ r ∈ records, r.Storable) ∨
      records.foldlM insertRecord t = .error (.failed .insertRecords) ∧
          (t.records = none ∨ t.attempts = none) ∨
        records.foldlM insertRecord t = .error .outOfRange ∧ ∃ r ∈ records, ¬r.Storable := by
  induction records generalizing t with
  | nil => exact Or.inl ⟨⟨t, rfl⟩, by simp⟩
  | cons r rest ih =>
      rw [List.foldlM_cons]
      rcases insertRecord_cases t (h r List.mem_cons_self) with
        ⟨⟨next, hnext⟩, hfits⟩ | ⟨hfail, hmissing⟩ | ⟨hfail, hfits⟩
      · rw [hnext]
        obtain ⟨-, rfl⟩ := insertRecord_eq hnext
        rcases ih (t.appendRecords [r]) fun x hx => h x (List.mem_cons_of_mem r hx) with
          ⟨hstored, hrest⟩ | ⟨hfail, hmissing⟩ | ⟨hfail, x, hx, hrest⟩
        · refine Or.inl ⟨hstored, ?_⟩
          intro x hx
          rcases List.mem_cons.mp hx with rfl | hx
          · exact hfits
          · exact hrest x hx
        · refine Or.inr (Or.inl ⟨hfail, ?_⟩)
          unfold appendRecords at hmissing
          rwa [Option.map_eq_none_iff, Option.map_eq_none_iff] at hmissing
        · exact Or.inr (Or.inr ⟨hfail, x, List.mem_cons_of_mem r hx, hrest⟩)
      · rw [hfail]
        exact Or.inr (Or.inl ⟨rfl, hmissing⟩)
      · rw [hfail]
        exact Or.inr (Or.inr ⟨rfl, r, List.mem_cons_self, hfits⟩)

end LogTables

/-! ### Logs -/

namespace EventLog

variable {log : EventLog}

/-- The three things that may come of storing items in an open log. -/
def Settles {α : Type} (operation : LogOperation) (items : List α) (Storable : α → Prop)
    (missing : Prop) (stored : EventLog) (result : Except LogError (Nat × EventLog)) : Prop :=
  result = .ok (items.length, stored) ∧ (∀ a ∈ items, Storable a) ∨
    result = .error (.failed operation) ∧ missing ∨
      result = .error .outOfRange ∧ ∃ a ∈ items, ¬Storable a

theorem settles_insertEvents (hopen : log.isOpen = true) (events : List Event) :
    Settles .insertEvents events Event.Storable (log.tables.events = none)
      { log with tables := log.tables.appendEvents events } (log.insertEvents events) := by
  cases events with
  | nil =>
      rw [LogTables.appendEvents_nil]
      exact Or.inl ⟨rfl, by simp⟩
  | cons e rest =>
      unfold Settles EventLog.insertEvents openTables
      simp only [List.isEmpty_cons, Bool.false_eq_true, if_false, hopen, if_true, bind, Except.bind]
      rcases LogTables.insertEvents_cases log.tables (e :: rest) with
        ⟨⟨t, hstored⟩, hall⟩ | ⟨hfail, hmissing⟩ | ⟨hfail, hsome⟩
      · rw [hstored, LogTables.insertEvents_eq hstored]
        exact Or.inl ⟨by rw [← hopen], hall⟩
      · rw [hfail]
        exact Or.inr (Or.inl ⟨rfl, hmissing⟩)
      · rw [hfail]
        exact Or.inr (Or.inr ⟨rfl, hsome⟩)

theorem settles_insertRecords (hopen : log.isOpen = true) {records : List Record}
    (h : ∀ r ∈ records, r.WellFormed) :
    Settles .insertRecords records Record.Storable
      (log.tables.records = none ∨ log.tables.attempts = none)
      { log with tables := log.tables.appendRecords records } (log.insertRecords records) := by
  cases records with
  | nil =>
      rw [LogTables.appendRecords_nil]
      exact Or.inl ⟨rfl, by simp⟩
  | cons r rest =>
      unfold Settles EventLog.insertRecords openTables
      simp only [List.isEmpty_cons, Bool.false_eq_true, if_false, hopen, if_true, bind, Except.bind]
      rcases LogTables.insertRecords_cases log.tables h with
        ⟨⟨t, hstored⟩, hall⟩ | ⟨hfail, hmissing⟩ | ⟨hfail, hsome⟩
      · rw [hstored, LogTables.insertRecords_eq hstored]
        exact Or.inl ⟨by rw [← hopen], hall⟩
      · rw [hfail]
        exact Or.inr (Or.inl ⟨rfl, hmissing⟩)
      · rw [hfail]
        exact Or.inr (Or.inr ⟨rfl, hsome⟩)

/-- With the tables there, a batch is refused for a value just if it holds one that is not storable. -/
theorem Settles.outOfRange_iff {α : Type} {operation : LogOperation} {items : List α}
    {Storable : α → Prop} {missing : Prop} {stored : EventLog}
    {result : Except LogError (Nat × EventLog)}
    (h : Settles operation items Storable missing stored result) (hthere : ¬missing) :
    result = .error .outOfRange ↔ ∃ a ∈ items, ¬Storable a := by
  rcases h with ⟨hstored, hall⟩ | ⟨-, hmissing⟩ | ⟨hfail, hsome⟩
  · rw [hstored]
    refine iff_of_false nofun ?_
    rintro ⟨a, ha, hnot⟩
    exact hnot (hall a ha)
  · exact absurd hmissing hthere
  · exact iff_of_true hfail hsome

/-- What is expected of storing items: all of them are stored and counted, or the operation fails; for
an item that is not storable they are refused. -/
def Answered {α : Type} (operation : LogOperation) (items : List α) (Storable : α → Prop)
    (stored : EventLog) : Except LogError (Nat × EventLog) → Prop
  | .ok (count, log) => count = items.length ∧ log = stored ∧ ∀ a ∈ items, Storable a
  | .error e => e = .failed operation ∨ e = .outOfRange ∧ ∃ a ∈ items, ¬Storable a

theorem Settles.answered {α : Type} {operation : LogOperation} {items : List α}
    {Storable : α → Prop} {missing : Prop} {stored : EventLog}
    {result : Except LogError (Nat × EventLog)}
    (h : Settles operation items Storable missing stored result) :
    Answered operation items Storable stored result := by
  rcases h with ⟨hstored, hall⟩ | ⟨hfail, -⟩ | ⟨hfail, hsome⟩
  · rw [hstored]
    exact ⟨rfl, rfl, hall⟩
  · rw [hfail]
    exact Or.inl rfl
  · rw [hfail]
    exact Or.inr ⟨rfl, hsome⟩

/-- An open log that is given a batch of events or a valid batch of records, wherever the database gives
up: the batch is stored as a whole and counted, or the operation fails, unless an item is not storable.
If the tables are there and the database does not give up, such an item always keeps the batch out, and
not by a failure of the operation. -/
theorem insertions_answered (hopen : log.isOpen = true) (n : Nat) (body : Option Json) :
    (∀ batch : List Event,
      Answered .insertEvents batch Event.Storable
          { log with tables := log.tables.appendEvents batch } (log.insertEventsUntil n batch) ∧
        (log.tables.events.isSome →
          (log.insertEvents batch = .error .outOfRange ↔ ∃ e ∈ batch, ¬e.Storable))) ∧
      ∀ batch, Intake.batch Intake.record body = .ok batch →
        Answered .insertRecords batch Record.Storable
            { log with tables := log.tables.appendRecords batch } (log.insertRecordsUntil n batch) ∧
          (log.tables.records.isSome → log.tables.attempts.isSome →
            (log.insertRecords batch = .error .outOfRange ↔ ∃ r ∈ batch, ¬r.Storable)) := by
  refine ⟨?_, ?_⟩
  · intro batch
    have hsettles := settles_insertEvents hopen batch
    refine ⟨?_, fun hthere => hsettles.outOfRange_iff (Option.isSome_iff_ne_none.mp hthere)⟩
    rcases insertEventsUntil_cases n log batch with hdone | ⟨-, hfail⟩
    · rw [hdone]
      exact hsettles.answered
    · rw [hfail]
      exact Or.inl rfl
  · intro batch hbatch
    have hwellFormed : ∀ r ∈ batch, r.WellFormed := by
      intro r hr
      obtain ⟨value, hvalue⟩ := Intake.mem_batch hbatch r hr
      exact Intake.record_wellFormed hvalue
    have hsettles := settles_insertRecords hopen hwellFormed
    refine ⟨?_, ?_⟩
    · rcases insertRecordsUntil_cases n log batch with hdone | ⟨-, hfail⟩
      · rw [hdone]
        exact hsettles.answered
      · rw [hfail]
        exact Or.inl rfl
    · intro hrecords hattempts
      refine hsettles.outOfRange_iff ?_
      rintro (hnone | hnone)
      · rw [hnone] at hrecords
        cases hrecords
      · rw [hnone] at hattempts
        cases hattempts

/-- A record with an attempt for which the database gives up on the attempt. -/
theorem insertions_answered_record :
    let body : Json := .object [("events", .array [.object [
      ("instanceId", .string "i"), ("retrievalId", .string "00000000-0000-4000-8000-000000000001"),
      ("success", .bool false), ("startTime", .string "2023-05-01T12:00:00Z"),
      ("endTime", .string "2023-05-01T12:00:02Z"), ("bandwidth", .number (.int 1000)),
      ("retrievalAttempts", .object [("p", .object [("error", .string "e")])])]])]
    ∃ batch, Intake.batch Intake.record (some body) = .ok batch ∧
      Answered .insertRecords batch Record.Storable
        { EventLog.empty with tables := EventLog.empty.tables.appendRecords batch }
        (EventLog.empty.insertRecordsUntil 1 batch) ∧
      (EventLog.empty.insertRecords batch = .error .outOfRange ↔ ∃ r ∈ batch, ¬r.Storable) := by
  intro body
  have hvalid : (Intake.batch Intake.record (some body)).isOk = true := by decide +kernel
  cases hbatch : Intake.batch Intake.record (some body) with
  | error problems =>
      rw [hbatch] at hvalid
      cases hvalid
  | ok batch =>
      have hopen : EventLog.empty.isOpen = true := rfl
      obtain ⟨hanswered, hexact⟩ := (insertions_answered hopen 1 (some body)).2 batch hbatch
      exact ⟨batch, rfl, hanswered, hexact rfl rfl⟩

/-- Valid batches that a new log refuses, and not by a failure of the operation: an event in the first
hour of the year 1 to the east of Greenwich, and a record with a bandwidth of `2 ^ 63`. -/
theorem refused_valid_batches :
    let early : Json := .object [("events", .array [.object [
      ("retrievalId", .string "00000000-0000-4000-8000-000000000001"),
      ("instanceId", .string "i"), ("cid", .string "c"), ("storageProviderId", .string ""),
      ("phase", .string "indexer"), ("phaseStartTime", .string "0001-01-01T00:00:00+01:00"),
      ("eventName", .string "started"), ("eventTime", .string "0001-01-01T00:00:00+01:00")]])]
    let broad : Json := .object [("events", .array [.object [
      ("instanceId", .string "i"), ("retrievalId", .string "00000000-0000-4000-8000-000000000001"),
      ("success", .bool false), ("startTime", .string "2023-05-01T12:00:00Z"),
      ("endTime", .string "2023-05-01T12:00:02Z"), ("bandwidth", .number (.int 0x8000000000000000))]])]
    (∃ batch, Intake.batch Intake.event (some early) = .ok batch ∧
        EventLog.empty.insertEvents batch = .error .outOfRange) ∧
      ∃ batch, Intake.batch Intake.record (some broad) = .ok batch ∧
        EventLog.empty.insertRecords batch = .error .outOfRange := by
  intro early broad
  have hearly : (match Intake.batch Intake.event (some early) with
      | .error _ => false
      | .ok batch =>
        match EventLog.empty.insertEvents batch with
        | .ok _ => false
        | .error e => e = .outOfRange) = true := by
    decide +kernel
  have hbroad : (match Intake.batch Intake.record (some broad) with
      | .error _ => false
      | .ok batch =>
        match EventLog.empty.insertRecords batch with
        | .ok _ => false
        | .error e => e = .outOfRange) = true := by
    decide +kernel
  constructor
  · split at hearly
    · cases hearly
    rename_i batch hbatch
    split at hearly
    · cases hearly
    rename_i e hrefused
    obtain rfl := of_decide_eq_true hearly
    exact ⟨batch, hbatch, hrefused⟩
  · split at hbroad
    · cases hbroad
    rename_i batch hbatch
    split at hbroad
    · cases hbroad
    rename_i e hrefused
    obtain rfl := of_decide_eq_true hbroad
    exact ⟨batch, hbatch, hrefused⟩

end EventLog

end RetrievalTelemetry
