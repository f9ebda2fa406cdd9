/-
Posted batches, all or nothing.

A posted batch goes three ways.  It is refused, because it is not declared as JSON or one of its
items is not valid; or the log does not take it; or it is stored, and then its items are handled in
their order.  Of the first two nothing remains, neither in the log nor in the correlator.  In the
third the log has exactly the rows of the batch more.

Both kinds of batches are taken by the same steps, so this is shown once for any kind of item, from
what storing and handling a batch of that kind come to.  The log may take a batch in one go or row by
row, with a database that gives up behind any of the rows; `Batching` asks for nothing but that a
batch which is taken is there as a whole.
-/
import RetrievalTelemetry.Proofs.EventLog.Append
import RetrievalTelemetry.Proofs.EventLog.Statements
import RetrievalTelemetry.Proofs.Intake.Batch
import RetrievalTelemetry.Service.Basic

namespace RetrievalTelemetry

/-! ### Items in their order -/

namespace Correlator

variable {α : Type} {handle : Correlator → α → Correlated}

/-- What comes of handling items one after another. -/
def inOrder (handle : Correlator → α → Correlated) (c : Correlator) (items : List α) :
    Correlator × List Update :=
  items.foldl
    (fun done a => ((handle done.1 a).correlator, done.2 ++ (handle done.1 a).updates)) (c, [])

theorem inOrder_cons (c : Correlator) (a : α) (rest : List α) :
    inOrder handle c (a :: rest)
      = ((inOrder handle (handle c a).correlator rest).1,
         (handle c a).updates ++ (inOrder handle (handle c a).correlator rest).2) := by
  have hgeneral : ∀ (items : List α) (c : Correlator) (told : List Update),
      items.foldl
          (fun done a => ((handle done.1 a).correlator, done.2 ++ (handle done.1 a).updates))
          (c, told)
        = ((inOrder handle c items).1, told ++ (inOrder handle c items).2) := by
    intro items
    induction items with
    | nil =>
        intro c told
        simp [inOrder]
    | cons a rest ih =>
        intro c told
        unfold inOrder
        rw [List.foldl_cons, List.foldl_cons, ih, ih]
        simp
  unfold inOrder
  rw [List.foldl_cons]
  exact hgeneral rest _ _

/-- A run that stops at the first item that does not come to its end handles all items in their
order, if none of them stops it. -/
theorem inOrder_of_completes (run : Correlator → List α → Correlated)
    (hnil : ∀ c, run c [] = { correlator := c })
    (hcons : ∀ c a rest, run c (a :: rest) =
      match (handle c a).fault with
      | some _ => handle c a
      | none =>
        { run (handle c a).correlator rest with
          updates := (handle c a).updates ++ (run (handle c a).correlator rest).updates })
    {c : Correlator} {items : List α} (hcompletes : (run c items).fault = none) :
    (run c items).correlator = (inOrder handle c items).1 ∧
      (run c items).updates = (inOrder handle c items).2 := by
  induction items generalizing c with
  | nil =>
      rw [hnil]
      exact ⟨rfl, rfl⟩
  | cons a rest ih =>
      rw [hcons] at hcompletes ⊢
      rw [inOrder_cons]
      cases hfault : (handle c a).fault with
      | some fault =>
          rw [hfault] at hcompletes
          dsimp only at hcompletes
          rw [hfault] at hcompletes
          cases hcompletes
      | none =>
          rw [hfault] at hcompletes
          obtain ⟨hcorrelator, hupdates⟩ := ih hcompletes
          exact ⟨hcorrelator, congrArg ((handle c a).updates ++ ·) hupdates⟩

end Correlator

/-! ### What is asked of storing -/

namespace EventLog

/-- A log without tables stores only an empty batch of events. -/
theorem eq_nil_of_insertEvents {log : EventLog} {events : List Event} {stored : Nat × EventLog}
    (h : log.withoutTables.insertEvents events = .ok stored) : events = [] := by
  cases events with
  | nil => rfl
  | cons e rest =>
      exfalso
      cases hopen : log.isOpen with
      | false =>
          simp [insertEvents, openTables, withoutTables, hopen, bind, Except.bind] at h
      | true =>
          simp only [insertEvents, openTables, withoutTables, hopen, LogTables.insertEvents, bind,
            Except.bind, List.isEmpty_cons, Bool.false_eq_true, if_false, if_true] at h
          split at h
          · cases h
          · rename_i hstored
            split at hstored
            · cases hstored
            · cases hstored

/-- A log without tables stores only an empty batch of records. -/
theorem eq_nil_of_insertRecords {log : EventLog} {records : List Record} {stored : Nat × EventLog}
    (h : log.withoutTables.insertRecords records = .ok stored) : records = [] := by
  cases records with
  | nil => rfl
  | cons r rest =>
      exfalso
      cases hopen : log.isOpen with
      | false =>
          simp [insertRecords, openTables, withoutTables, hopen, bind, Except.bind] at h
      | true =>
          cases hfirst : LogTables.insertRecord ⟨none, none, none⟩ r with
          | error error =>
              simp [insertRecords, openTables, withoutTables, hopen, bind, Except.bind,
                hfirst] at h
          | ok tables =>
              have hsome := (LogTables.insertRecord_eq hfirst).1
              cases hsome

end EventLog

namespace Service

variable {α : Type}

/-- What comes of a posted batch: it is refused, or it is not stored, or it is recorded.  Only in
the last case is anything different afterwards. -/
structure AllOrNothing (s : Service) (request : Request) (item : JsonCheck α)
    (insert : EventLog → List α → Except LogError (Nat × EventLog))
    (append : LogTables → List α → LogTables) (handle : Correlator → α → Correlated)
    (x : Exchange) : Prop where
  /-- A batch is refused exactly if its type is wrong or not all of its items are valid. -/
  refused_iff : x.response.status = 400 ↔
    ¬(isJsonType request.contentType = true ∧ ∃ items, Intake.Denotes item request.body items)
  refused : x.response.status = 400 → x.service = s ∧ x.updates = []
  /-- Whatever stops the log, at any row. -/
  unstored : ∀ items log error, isJsonType request.contentType = true →
    Intake.Denotes item request.body items → s.recorderForRequests.log = some log →
    insert log items = .error error →
    x.response.status = 500 ∧ x.service = s ∧ x.updates = []
  recorded : x.response.status = 200 → ∃ items, Intake.Denotes item request.body items ∧
    x.service.recorder.log
      = s.recorder.log.map (fun log => { log with tables := append log.tables items }) ∧
    x.service.recorder.correlator = (Correlator.inOrder handle s.recorder.correlator items).1 ∧
    x.updates = (Correlator.inOrder handle s.recorder.correlator items).2

/-- The answer to what was recorded is never a refusal, and it is a success if nothing stopped it. -/
theorem recordedResponse_status (error : Option RecorderError) :
    (recordedResponse error).status = if error = none then 200 else 500 := by
  unfold recordedResponse
  split
  · rfl
  · rfl
  · rw [if_neg (Option.some_ne_none _)]
    rfl

/-- A recorder whose log has a batch more. -/
def appended (append : LogTables → List α → LogTables) (r : Recorder) (items : List α) : Recorder :=
  { r with log := r.log.map fun log => { log with tables := append log.tables items } }

/-- Requests have the correlator before them that the service has. -/
theorem correlator_recorderForRequests (s : Service) :
    s.recorderForRequests.correlator = s.recorder.correlator := by
  unfold recorderForRequests
  split <;> rfl

/-- What is restored after a step that changed nothing is what was there. -/
theorem adopt_restore_unchanged (s : Service) (updates : List Update)
    (error : Option RecorderError) :
    (s.adopt (s.restore ⟨s.recorderForRequests, updates, error⟩)).service = s := by
  rcases s with ⟨recorder, exposesMetrics, sharesLog⟩
  cases sharesLog <;> rfl

/-- How batches of a kind of items are stored and handled. -/
structure Batching (insert : EventLog → List α → Except LogError (Nat × EventLog))
    (append : LogTables → List α → LogTables) (handle : Correlator → α → Correlated)
    (run : Correlator → List α → Correlated) : Prop where
  /-- A log that takes a batch has its rows behind the old ones. -/
  stored : ∀ {log : EventLog} {items stored}, insert log items = .ok stored →
    stored.2 = { log with tables := append log.tables items }
  /-- Without tables there is room for an empty batch only. -/
  empty : ∀ {log : EventLog} {items stored}, insert log.withoutTables items = .ok stored → items = []
  append_nil : ∀ tables, append tables [] = tables
  /-- What is not stopped handles all items. -/
  handled : ∀ {c items}, (run c items).fault = none →
    (run c items).correlator = (Correlator.inOrder handle c items).1 ∧
      (run c items).updates = (Correlator.inOrder handle c items).2

section Taking

variable {insert : EventLog → List α → Except LogError (Nat × EventLog)}
  {append : LogTables → List α → LogTables} {handle : Correlator → α → Correlated}
  {run : Correlator → List α → Correlated}

/-- A batch is not stored, or the log has it and its items are handled. -/
theorem Batching.recordBatch_cases (h : Batching insert append handle run) (r : Recorder)
    (items : List α) :
    (∃ log error, r.log = some log ∧ insert log items = .error error ∧
      r.recordBatch insert run items = { recorder := r, error := some (.storage error) }) ∨
    (∀ log, r.log = some log → ∃ stored, insert log items = .ok stored) ∧
      r.recordBatch insert run items
        = (appended append r items).adopt (run r.correlator items) := by
  unfold Recorder.recordBatch Recorder.storeWith appended
  cases hlog : r.log with
  | none =>
      refine Or.inr ⟨?_, ?_⟩
      · intro log h
        cases h
      · have hsame : ({ r with log := none } : Recorder) = r := by rw [← hlog]
        rw [Option.map_none, hsame]
  | some log =>
      cases hstored : insert log items with
      | error error => exact Or.inl ⟨log, error, rfl, hstored, by simp [bind, Except.bind, hstored]⟩
      | ok stored =>
          refine Or.inr ⟨?_, ?_⟩
          · intro log' hlog'
            rw [← Option.some.inj hlog']
            exact ⟨stored, hstored⟩
          · have hrows := h.stored hstored
            simp [bind, Except.bind, hstored, hrows]

/-- The log has the rows of a batch that was stored, and no more if it is restored. -/
theorem Batching.log_stored (h : Batching insert append handle run) {s : Service} {items : List α}
    (hstored : ∀ log, s.recorderForRequests.log = some log → ∃ stored, insert log items = .ok stored)
    (done : Correlated) :
    (s.adopt (s.restore ((appended append s.recorderForRequests items).adopt done))
        ).service.recorder.log
      = s.recorder.log.map fun log => { log with tables := append log.tables items } := by
  unfold adopt restore recorderForRequests appended Recorder.adopt
  cases hshares : s.sharesLog with
  | true => rfl
  | false =>
      -- Requests see a log without tables, and such a log takes only the empty batch.
      simp only [Bool.false_eq_true, if_false]
      cases hlog : s.recorder.log with
      | none => rfl
      | some log =>
          have hrequests : s.recorderForRequests.log = some log.withoutTables := by
            unfold recorderForRequests
            simp [hshares, hlog]
          obtain ⟨stored, hok⟩ := hstored _ hrequests
          rw [h.empty hok, Option.map_some, h.append_nil]

/-- The items of a body are determined by it. -/
theorem denotes_unique {item : JsonCheck α} {body : ByteArray} {items items' : List α}
    (h : Intake.Denotes item body items) (h' : Intake.Denotes item body items') :
    items' = items := by
  have hread := Intake.batch_eq_ok.mpr h'
  rw [Intake.batch_eq_ok.mpr h] at hread
  exact (Except.ok.inj hread).symm

/-- What comes of a valid batch that the log does not take. -/
theorem unstored_allOrNothing {s : Service} {request : Request} {item : JsonCheck α}
    {items : List α} {error : LogError} (hjson : isJsonType request.contentType = true)
    (hitems : Intake.Denotes item request.body items) :
    AllOrNothing s request item insert append handle
      (s.adopt (s.restore ⟨s.recorderForRequests, [], some (.storage error)⟩)) := by
  have hstatus : (s.adopt (s.restore ⟨s.recorderForRequests, [], some (.storage error)⟩)
      ).response.status = 500 := by
    show (recordedResponse _).status = 500
    unfold restore
    rw [recordedResponse_status]
    cases s.sharesLog <;> rfl
  have hservice := s.adopt_restore_unchanged [] (some (.storage error))
  have hupdates : (s.adopt (s.restore ⟨s.recorderForRequests, [], some (.storage error)⟩)
      ).updates = [] := by
    unfold adopt restore
    cases s.sharesLog <;> rfl
  have hvalid : ∃ items, Intake.Denotes item request.body items := ⟨items, hitems⟩
  refine ⟨?_, ?_, ?_, ?_⟩
  · rw [hstatus]
    simp [hjson, hvalid]
  · intro _
    exact ⟨hservice, hupdates⟩
  · intro _ _ _ _ _ _ _
    exact ⟨hstatus, hservice, hupdates⟩
  · intro hsuccess
    rw [hstatus] at hsuccess
    cases hsuccess

/-- What comes of a valid batch that is stored and handled. -/
theorem Batching.stored_allOrNothing (h : Batching insert append handle run) {s : Service}
    {request : Request} {item : JsonCheck α} {items : List α}
    (hstored : ∀ log, s.recorderForRequests.log = some log → ∃ stored, insert log items = .ok stored)
    (hjson : isJsonType request.contentType = true)
    (hitems : Intake.Denotes item request.body items) :
    AllOrNothing s request item insert append handle
      (s.adopt (s.restore ((appended append s.recorderForRequests items).adopt
        (run s.recorder.correlator items)))) := by
  have hstatus : (s.adopt (s.restore ((appended append s.recorderForRequests items).adopt
      (run s.recorder.correlator items)))).response.status
        = if (run s.recorder.correlator items).fault = none then 200 else 500 := by
    show (recordedResponse _).status = _
    rw [recordedResponse_status]
    have herror : (s.restore ((appended append s.recorderForRequests items).adopt
        (run s.recorder.correlator items))).error
          = (run s.recorder.correlator items).fault.map .correlation := by
      unfold restore
      cases s.sharesLog <;> rfl
    rw [herror]
    simp
  have hvalid : ∃ items, Intake.Denotes item request.body items := ⟨items, hitems⟩
  refine ⟨?_, ?_, ?_, ?_⟩
  · rw [hstatus]
    split <;> simp [hjson, hvalid]
  · intro hrefused
    rw [hstatus] at hrefused
    split at hrefused <;> cases hrefused
  · intro items' log error _ hitems' hlog hfailed
    obtain ⟨stored, hok⟩ := hstored log hlog
    rw [denotes_unique hitems hitems', hok] at hfailed
    cases hfailed
  · intro hsuccess
    have hcompletes : (run s.recorder.correlator items).fault = none := by
      by_contra hstopped
      rw [hstatus, if_neg hstopped] at hsuccess
      cases hsuccess
    obtain ⟨hcorrelator, hupdates⟩ := h.handled hcompletes
    refine ⟨items, hitems, h.log_stored hstored _, ?_, ?_⟩
    · rw [← hcorrelator]
      unfold adopt restore
      cases s.sharesLog <;> rfl
    · rw [← hupdates]
      unfold adopt restore
      cases s.sharesLog <;> rfl

/-- A valid batch is recorded. -/
theorem take_of_denotes {s : Service} {request : Request} {item : JsonCheck α} {items : List α}
    (hjson : isJsonType request.contentType = true)
    (hitems : Intake.Denotes item request.body items) (record : List α → Recorded) :
    s.take request (fun body => Intake.batch item (Json.ofBytes? .strict body)) record
      = s.adopt (s.restore (record items)) := by
  unfold take
  dsimp only
  rw [if_pos hjson, Intake.batch_eq_ok.mpr hitems]

/-- What comes of a posted batch of any kind. -/
theorem Batching.take_allOrNothing (h : Batching insert append handle run) (s : Service)
    (request : Request) (item : JsonCheck α) :
    AllOrNothing s request item insert append handle
      (s.take request (fun body => Intake.batch item (Json.ofBytes? .strict body))
        (s.recorderForRequests.recordBatch insert run)) := by
  by_cases hjson : isJsonType request.contentType = true
  · cases hread : Intake.batch item (Json.ofBytes? .strict request.body) with
    | ok items =>
        have hitems := Intake.batch_eq_ok.mp hread
        rw [take_of_denotes hjson hitems]
        rcases h.recordBatch_cases s.recorderForRequests items with
          ⟨log, error, -, -, hstep⟩ | ⟨hstored, hstep⟩
        · rw [hstep]
          exact unstored_allOrNothing hjson hitems
        · rw [hstep, correlator_recorderForRequests]
          exact h.stored_allOrNothing hstored hjson hitems
    | error problems =>
        have hinvalid : ¬∃ items, Intake.Denotes item request.body items := by
          rintro ⟨items, hitems⟩
          rw [Intake.batch_eq_ok.mpr hitems] at hread
          cases hread
        unfold take
        dsimp only
        rw [if_pos hjson, hread]
        refine ⟨?_, fun _ => ⟨rfl, rfl⟩, ?_, fun hsuccess => by cases hsuccess⟩
        · simp [hinvalid, reply, Response.plain]
        · intro items _ _ _ hitems
          exact absurd ⟨items, hitems⟩ hinvalid
  · unfold take
    dsimp only
    rw [if_neg hjson]
    refine ⟨?_, fun _ => ⟨rfl, rfl⟩, ?_, fun hsuccess => by cases hsuccess⟩
    · simp [hjson, reply, wrongType, Response.plain]
    · intro _ _ _ htype
      exact absurd htype hjson

/-- A way to store that takes fewer batches, but those in the same way. -/
theorem Batching.restrict (h : Batching insert append handle run)
    {insert' : EventLog → List α → Except LogError (Nat × EventLog)}
    (htaken : ∀ {log : EventLog} {items stored}, insert' log items = .ok stored →
      insert log items = .ok stored) : Batching insert' append handle run where
  stored hok := h.stored (htaken hok)
  empty hok := h.empty (htaken hok)
  append_nil := h.append_nil
  handled := h.handled

/-- What comes of a batch that the log takes row by row if the database gives up behind some of them,
and what if there are not so many rows. -/
structure RowByRow (s : Service) (request : Request) (item : JsonCheck α)
    (statements : List α → Nat) (x : Nat → Exchange) (whole : Exchange) : Prop where
  /-- Behind all rows the database can still give up on the commit. -/
  given_up : ∀ n items, isJsonType request.contentType = true →
    Intake.Denotes item request.body items → items ≠ [] → s.recorderForRequests.log.isSome = true →
    n ≤ statements items →
    (x n).response.status = 500 ∧ (x n).service = s ∧ (x n).updates = []
  finished : ∀ n, (∀ items, Intake.Denotes item request.body items → statements items < n) →
    x n = whole

/-- What comes of a posted batch depends on what storing its items comes to. -/
theorem take_congr {insert' : EventLog → List α → Except LogError (Nat × EventLog)} {s : Service}
    {request : Request} {item : JsonCheck α}
    (h : ∀ items log, Intake.Denotes item request.body items → insert' log items = insert log items) :
    s.take request (fun body => Intake.batch item (Json.ofBytes? .strict body))
        (s.recorderForRequests.recordBatch insert' run)
      = s.take request (fun body => Intake.batch item (Json.ofBytes? .strict body))
        (s.recorderForRequests.recordBatch insert run) := by
  unfold take
  dsimp only
  split
  · cases hread : Intake.batch item (Json.ofBytes? .strict request.body) with
    | error problems => rfl
    | ok items =>
        have hsame : (fun log => insert' log items) = fun log => insert log items :=
          funext fun log => h items log (Intake.batch_eq_ok.mp hread)
        dsimp only
        unfold Recorder.recordBatch
        rw [hsame]
  · rfl

theorem Batching.rowByRow (h : Batching insert append handle run)
    {insertUntil : Nat → EventLog → List α → Except LogError (Nat × EventLog)}
    {statements : List α → Nat}
    (hcases : ∀ n log items, insertUntil n log items = insert log items ∨
      n ≤ statements items ∧ ∃ error, insertUntil n log items = .error error)
    (hgivenUp : ∀ n log items, items ≠ [] → n ≤ statements items →
      ∃ error, insertUntil n log items = .error error)
    (s : Service) (request : Request) (item : JsonCheck α) :
    let x : Nat → Exchange := fun n =>
      s.take request (fun body => Intake.batch item (Json.ofBytes? .strict body))
        (s.recorderForRequests.recordBatch (insertUntil n) run)
    (∀ n, AllOrNothing s request item (insertUntil n) append handle (x n)) ∧
      RowByRow s request item statements x
        (s.take request (fun body => Intake.batch item (Json.ofBytes? .strict body))
          (s.recorderForRequests.recordBatch insert run)) := by
  intro x
  have hall : ∀ n, AllOrNothing s request item (insertUntil n) append handle (x n) := by
    intro n
    refine Batching.take_allOrNothing (h.restrict fun {log items stored} hok => ?_) s request item
    rcases hcases n log items with hwhole | ⟨-, error, herror⟩
    · rw [← hwhole, hok]
    · rw [herror] at hok
      cases hok
  refine ⟨hall, fun n items hjson hitems hne hlog hle => ?_, fun n hmany => ?_⟩
  · obtain ⟨log, hlog⟩ := Option.isSome_iff_exists.mp hlog
    obtain ⟨error, herror⟩ := hgivenUp n log items hne hle
    exact (hall n).unstored items log error hjson hitems hlog herror
  · refine take_congr fun items log hitems => (hcases n log items).resolve_right fun hfew => ?_
    exact absurd hfew.1 (Nat.not_le.mpr (hmany items hitems))

/-- What is asked of an answer does not concern whether its body is left out. -/
theorem AllOrNothing.headOnly {s : Service} {request : Request} {item : JsonCheck α} {x : Exchange}
    (h : AllOrNothing s request item insert append handle x) (headOnly : Bool) :
    AllOrNothing s request item insert append handle
      { x with response := { x.response with headOnly := headOnly } } :=
  ⟨h.refused_iff, h.refused, h.unstored, h.recorded⟩

end Taking

theorem RowByRow.headOnly {s : Service} {request : Request} {item : JsonCheck α}
    {statements : List α → Nat} {x : Nat → Exchange} {whole : Exchange}
    (h : RowByRow s request item statements x whole) (headOnly : Bool) :
    RowByRow s request item statements
      (fun n => { x n with response := { (x n).response with headOnly := headOnly } })
      { whole with response := { whole.response with headOnly := headOnly } } where
  given_up := h.given_up
  finished n hmany := by rw [h.finished n hmany]

/-- A request for one of the methods of a route is served. -/
theorem handleWith_of_route (storage : Storage) (s : Service) (now : Binary64) {request : Request}
    {route : Route} (hroute : Route.destination request.target = .route route)
    (hmethod : route.methods.contains request.method = true) :
    s.handleWith storage now request
      = { s.serveWith storage now request route with
          response := { (s.serveWith storage now request route).response with
            headOnly := request.method = "HEAD" } } := by
  unfold handleWith
  rw [hroute]
  dsimp only
  rw [if_pos hmethod]

theorem batching_events (now : Binary64) :
    Batching EventLog.insertEvents LogTables.appendEvents (fun c e => c.event now e)
      (fun c items => c.events now items) where
  stored h := (EventLog.insertEvents_eq h).2
  empty := EventLog.eq_nil_of_insertEvents
  append_nil := LogTables.appendEvents_nil
  handled := Correlator.inOrder_of_completes (fun c items => c.events now items) (fun _ => rfl)
    fun _ _ _ => rfl

theorem batching_records :
    Batching EventLog.insertRecords LogTables.appendRecords Correlator.record
      Correlator.records where
  stored h := (EventLog.insertRecords_eq h).2
  empty := EventLog.eq_nil_of_insertRecords
  append_nil := LogTables.appendRecords_nil
  handled := Correlator.inOrder_of_completes Correlator.records (fun _ => rfl) fun _ _ _ => rfl

end Service

/-- The log takes batches row by row, as far as the database carries out statements. -/
def Storage.upTo (n : Nat) : Storage where
  events := EventLog.insertEventsUntil n
  records := EventLog.insertRecordsUntil n

namespace Service

/-- A batch that is posted is recorded as a whole, or nothing of it is.  If it is refused or the log
does not take it, the log, the live table, the resolver and the meter are what they were and no
update was made.  If it is answered with success, the log has its rows behind the old ones, and the
correlator and the updates are those of its items one after another.  That is so whether the log takes
the batch in one go or row by row, and nothing is left of a batch if the database gives up behind any of
its rows: events, records or the attempts of a record. -/
theorem posted_all_or_nothing (s : Service) (now : Binary64) (request : Request)
    (hmethod : request.method = "POST") :
    (Route.destination request.target = .route .events →
      AllOrNothing s request Intake.event EventLog.insertEvents LogTables.appendEvents
        (fun c e => c.event now e) (s.handle now request) ∧
      (∀ n, AllOrNothing s request Intake.event (EventLog.insertEventsUntil n)
        LogTables.appendEvents (fun c e => c.event now e) (s.handleWith (.upTo n) now request)) ∧
      RowByRow s request Intake.event List.length
        (fun n => s.handleWith (.upTo n) now request) (s.handle now request)) ∧
    (Route.destination request.target = .route .records →
      AllOrNothing s request Intake.record EventLog.insertRecords LogTables.appendRecords
        Correlator.record (s.handle now request) ∧
      (∀ n, AllOrNothing s request Intake.record (EventLog.insertRecordsUntil n)
        LogTables.appendRecords Correlator.record (s.handleWith (.upTo n) now request)) ∧
      RowByRow s request Intake.record
        (fun records => (records.flatMap LogTables.statementsOf).length)
        (fun n => s.handleWith (.upTo n) now request) (s.handle now request)) := by
  constructor
  · intro hroute
    have hserved : ∀ storage, _ := fun storage =>
      handleWith_of_route storage s now hroute (by rw [hmethod]; decide)
    have hwhole := (batching_events now).take_allOrNothing s request Intake.event
    obtain ⟨hrows, hrowByRow⟩ := (batching_events now).rowByRow
      (fun n log events => (EventLog.insertEventsUntil_cases n log events).imp_right
        fun h => ⟨h.1, _, h.2⟩)
      (fun n log events hne hle => EventLog.insertEventsUntil_of_le hne hle) s request Intake.event
    unfold handle
    simp only [hserved]
    exact ⟨hwhole.headOnly _, fun n => (hrows n).headOnly _, hrowByRow.headOnly _⟩
  · intro hroute
    have hserved : ∀ storage, _ := fun storage =>
      handleWith_of_route storage s now hroute (by rw [hmethod]; decide)
    have hwhole := batching_records.take_allOrNothing s request Intake.record
    obtain ⟨hrows, hrowByRow⟩ := batching_records.rowByRow
      (fun n log records => (EventLog.insertRecordsUntil_cases n log records).imp_right
        fun h => ⟨h.1, _, h.2⟩)
      (fun n log records hne hle => EventLog.insertRecordsUntil_of_le hne hle) s request
      Intake.record
    unfold handle
    simp only [hserved]
    exact ⟨hwhole.headOnly _, fun n => (hrows n).headOnly _, hrowByRow.headOnly _⟩

set_option maxRecDepth 4000 in
/-- Two events, and two records of which the second has two attempts, are posted to a service with an
empty log.  They are stored, or the database gives up behind the first event and behind the first
attempt of the second record. -/
theorem posted_all_or_nothing_paths :
    let table : LiveTable := { timeout := .int 60, pool := { capacity := 4 } }
    let s : Service := { recorder := { correlator := { table := table }, log := some .empty } }
    let now : Binary64 := .zero false
    let post : String → String → Request := fun target body =>
      { method := "POST", target := target, contentType := some "application/json",
        body := body.toUTF8 }
    let events : Request := post "/v1/retrieval-events"
      "\x7b\"events\":[
        \x7b\"retrievalId\":\"00000000000000000000000000000001\",\"instanceId\":\"\",\"cid\":\"\",
          \"storageProviderId\":\"\",\"phase\":\"indexer\",\"phaseStartTime\":0,
          \"eventName\":\"started\",\"eventTime\":0\x7d,
        \x7b\"retrievalId\":\"00000000000000000000000000000001\",\"instanceId\":\"\",\"cid\":\"\",
          \"storageProviderId\":\"p\",\"phase\":\"retrieval\",\"phaseStartTime\":0,
          \"eventName\":\"failure\",\"eventTime\":1\x7d]\x7d"
    let records : Request := post "/v2/retrieval-events"
      "\x7b\"events\":[
        \x7b\"retrievalId\":\"00000000000000000000000000000001\",\"instanceId\":\"\",
          \"success\":false,\"startTime\":0,\"endTime\":1\x7d,
        \x7b\"retrievalId\":\"00000000000000000000000000000002\",\"instanceId\":\"\",
          \"success\":false,\"startTime\":0,\"endTime\":1,
          \"retrievalAttempts\":\x7b\"p\":\x7b\x7d,\"q\":\x7b\x7d\x7d\x7d]\x7d"
    (((s.handle now events).response.status = 200 ∧
      (s.handle now events).service.recorder.log.bind (fun log =>
        log.tables.events.map fun rows => rows.map (·.id)) = some [1, 2] ∧
      (s.handle now events).updates.length = 2) ∧
    ((s.handleWith (.upTo 1) now events).response.status = 500 ∧
      (s.handleWith (.upTo 1) now events).service = s ∧
      (s.handleWith (.upTo 1) now events).updates = [])) ∧
    (((s.handle now records).response.status = 200 ∧
      (s.handle now records).service.recorder.log.bind (fun log =>
        log.tables.attempts.map fun rows => rows.map (·.record)) = some [2, 2] ∧
      (s.handle now records).updates.length = 3) ∧
    ((s.handleWith (.upTo 3) now records).response.status = 500 ∧
      (s.handleWith (.upTo 3) now records).service = s ∧
      (s.handleWith (.upTo 3) now records).updates = [])) := by
  intro table s now post events records
  have hjson : isJsonType (some "application/json") = true := by decide +kernel
  have hevents : Route.destination "/v1/retrieval-events" = .route .events := by decide +kernel
  have hrecords : Route.destination "/v2/retrieval-events" = .route .records := by decide +kernel
  constructor
  · let taken : List Event → Exchange := fun items =>
      s.adopt (s.restore (s.recorderForRequests.recordEvents now items))
    obtain ⟨items, hitems, hfacts⟩ : ∃ items, Intake.Denotes Intake.event events.body items ∧
        (items.length, (taken items).response.status, (taken items).updates.length,
          (taken items).service.recorder.log.bind fun log =>
            log.tables.events.map fun rows => rows.map (·.id)) = (2, 200, 2, some [1, 2]) :=
      Intake.exists_denotes_ofList (by decide +kernel)
    simp only [Prod.mk.injEq] at hfacts
    obtain ⟨hlength, hstatus, hupdates, hids⟩ := hfacts
    have hserved : s.serveWith .inOneGo now events .events = taken items :=
      take_of_denotes hjson hitems _
    have hanswer : s.handle now events
        = { taken items with response := { (taken items).response with headOnly := false } } := by
      rw [← hserved]
      exact handleWith_of_route .inOneGo s now hevents rfl
    obtain ⟨-, -, hrows⟩ := (posted_all_or_nothing s now events rfl).1 hevents
    have hne : items ≠ [] := List.ne_nil_of_length_pos (by omega)
    rw [hanswer]
    exact ⟨⟨hstatus, hids, hupdates⟩, hrows.given_up 1 items hjson hitems hne rfl (by omega)⟩
  · let taken : List Record → Exchange := fun items =>
      s.adopt (s.restore (s.recorderForRequests.recordRecords items))
    obtain ⟨items, hitems, hfacts⟩ : ∃ items, Intake.Denotes Intake.record records.body items ∧
        ((items.flatMap LogTables.statementsOf).length, (taken items).response.status,
          (taken items).updates.length, (taken items).service.recorder.log.bind fun log =>
            log.tables.attempts.map fun rows => rows.map (·.record)) = (4, 200, 3, some [2, 2]) :=
      Intake.exists_denotes_ofList (by decide +kernel)
    simp only [Prod.mk.injEq] at hfacts
    obtain ⟨hlength, hstatus, hupdates, hrefs⟩ := hfacts
    have hserved : s.serveWith .inOneGo now records .records = taken items :=
      take_of_denotes hjson hitems _
    have hanswer : s.handle now records
        = { taken items with response := { (taken items).response with headOnly := false } } := by
      rw [← hserved]
      exact handleWith_of_route .inOneGo s now hrecords rfl
    obtain ⟨-, -, hrows⟩ := (posted_all_or_nothing s now records rfl).2 hrecords
    have hne : items ≠ [] := by
      rintro rfl
      cases hlength
    rw [hanswer]
    exact ⟨⟨hstatus, hrefs, hupdates⟩,
      hrows.given_up 3 items hjson hitems hne rfl (by omega)⟩

end Service

end RetrievalTelemetry
