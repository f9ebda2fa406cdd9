/-
From events to updates.

Only eleven of the pairs of phase and code mean anything.  Each has a rule, which gives an
action: to write to the live table and tell the instruments what was new, to end the
retrieval and tell what became of it, or only to tell something.  The success and the indexer
failure of a retrieval end it.  They count only while it is live, so a success that comes
twice in a row counts once.

Two things can go wrong.  One is the arithmetic of the transfer rate: a size that is too
large for a double, or a rate that is infinite.  What was told to the instruments before
stays told, and the samples that would follow are missing.  The other is a lifetime that is
too large for a double, which stops the event that makes an entry; the entry stays.
-/
import RetrievalTelemetry.Event.Basic
import RetrievalTelemetry.Live.Table
import RetrievalTelemetry.Metric.Update

namespace RetrievalTelemetry

/-- What comes of one step: the live table after it, and what it told the instruments. -/
structure Metered where
  table : LiveTable
  updates : List Update := []
  /-- What stopped the step before its end. -/
  fault : Option ArithmeticError := none

/-- What the rule of an event does to its retrieval. -/
inductive Action where
  /-- Makes it live and writes to it; `told` is what the answer and the start time give to tell. -/
  | mark (mark : Mark) (told : MarkAnswer → Option Timestamp → List Update)
  /-- Ends it if it is live; `told` is what its progress gives to tell. -/
  | close (told : Progress → List Update × Option ArithmeticError)
  /-- Leaves it alone. -/
  | tell (updates : List Update)

namespace Action

/-- Nothing is done and nothing told. -/
def ignore : Action := tell []

/-- Does it at the time `now` to a retrieval. -/
def apply (now : Binary64) (t : LiveTable) (id : Uuid) : Action → Metered
  | .mark written told =>
    match t.enter now id with
    | (.error fault, t) => { table := t, fault := some fault }
    | (.ok handle, t) =>
      let (answer, t) := t.write handle written
      { table := t, updates := told answer (t.startTime handle) }
  | .close told =>
    match t.finish id with
    | (none, t) => { table := t }
    | (some progress, t) =>
      let (updates, fault) := told progress
      { table := t, updates := updates, fault := fault }
  | .tell updates => { table := t, updates := updates }

end Action

namespace Metering

/-- What is told only of a write that was the first of its kind. -/
def ifFirst (updates : Option Timestamp → List Update) : MarkAnswer → Option Timestamp → List Update
  | .first true, start => updates start
  | _, _ => []

/-- A sample of the time from the start to `time`, if the start is known. -/
def sinceStart (histogram : Histogram) (time : Timestamp) (attributes : Attributes) :
    Option Timestamp → List Update
  | none => []
  | some start => [.seconds histogram (time.since start).toSeconds attributes]

/-- Only a positive count of candidates says anything. -/
def ifCounted (e : Event) (rule : Int → Action) : Action :=
  match e.candidates? with
  | none => .ignore
  | some count => if count ≤ 0 then .ignore else rule count

/-- The indexer begins. -/
def indexerStarted (e : Event) : Action :=
  .mark (.start e.time) (ifFirst fun _ => [.count .requests])

/-- Candidates were found. -/
def candidatesFound (e : Event) : Action :=
  ifCounted e fun count =>
    .mark (.candidates e.time count) <| ifFirst fun start =>
      .count .candidates :: sinceStart .timeToFirstCandidate e.time [] start

/-- Candidates passed the filter. -/
def candidatesFiltered (e : Event) : Action :=
  ifCounted e fun count => .mark (.filtered count) (ifFirst fun _ => [.count .candidatesFiltered])

/-- The indexer failed, which ends the retrieval. -/
def indexerFailed : Action := .close fun _ => ([.count .indexerFailures], none)

/-- An attempt begins. -/
def retrievalStarted (e : Event) : Action :=
  if Transport.isAgnostic e.provider then
    .mark .bitswap (ifFirst fun _ => [.count .bitswapAttempts])
  else
    .mark .graphsync (ifFirst fun _ => [.count .graphsyncAttempts (Update.provider e.provider)])

/-- What a failed attempt tells the instruments. -/
def failureUpdates (e : Event) : List Update :=
  (if Transport.isAgnostic e.provider then []
   else [.count .graphsyncFailures (Update.provider e.provider)]) ++
  match e.errorText? with
  | none => []
  | some text =>
    [.count (.error (ErrorCategory.ofMessage text))
      (Update.protocol (Transport.ofProvider e.provider).name)]

/-- An attempt failed, which is told each time. -/
def retrievalFailed (e : Event) : Action := .mark .failure fun _ _ => failureUpdates e

/-- The first byte arrived. -/
def firstByte (e : Event) : Action :=
  let protocol := Update.protocol (Transport.ofProvider e.provider).name
  .mark (.firstByte e.time) <| ifFirst fun start =>
    .count .firstByte protocol :: sinceStart .timeToFirstByte e.time protocol start

/-- Whole bytes per second. -/
def transferRate (bytes : Int) (seconds : Binary64) : Except ArithmeticError Int :=
  match (Number.int bytes).toDouble? with
  | none => .error .tooLarge
  | some size =>
    match (size.div seconds).truncate? with
    | none => .error .tooLarge
    | some rate => .ok rate

/-- The three samples that every success gives. -/
def perRequest (candidates filtered failures : Int) : List Update :=
  [.whole .candidatesPerRequest candidates, .whole .filteredPerRequest filtered,
   .whole .failuresPerRequest failures]

/-- The counters and the duration of a success. -/
def successHead (e : Event) (p : Progress) : List Update :=
  let transport := Transport.ofProvider e.provider
  let protocol := Update.protocol transport.name
  [.count .success protocol,
   if transport = .bitswap then .count .bitswapSuccess
   else .count .graphsyncSuccess (Update.provider e.provider)] ++
  sinceStart .dealDuration e.time protocol p.start

/-- The size of a success, and its rate if the transfer took time. -/
def successTransfer (e : Event) (p : Progress) : List Update × Option ArithmeticError :=
  let protocol := Update.protocol (Transport.ofProvider e.provider).name
  match e.received? with
  | none => ([], none)
  | some bytes =>
    let size := Update.whole .dealSize bytes protocol
    match p.firstByte with
    | none => ([size], none)
    | some first =>
      let seconds := (e.time.since first).toSeconds
      if (Binary64.zero false).lt seconds then
        match transferRate bytes seconds with
        | .error fault => ([size], some fault)
        | .ok rate => ([size, .whole .bandwidth rate protocol], none)
      else ([size], none)

/-- What the success of a retrieval tells the instruments. -/
def successUpdates (e : Event) (p : Progress) : List Update × Option ArithmeticError :=
  match successTransfer e p with
  | (transfer, some fault) => (successHead e p ++ transfer, some fault)
  | (transfer, none) =>
    (successHead e p ++ transfer ++ perRequest p.candidates p.filtered p.failures, none)

/-- All bytes arrived, which ends the retrieval. -/
def retrievalSucceeded (e : Event) : Action := .close (successUpdates e)

/-- A provider was asked, which concerns no retrieval in particular. -/
def queried (counter : Counter) (e : Event) : Action :=
  .tell [.count counter (Update.provider e.provider)]

/-- The rule for the phase and code of an event. -/
def rule (e : Event) : Action :=
  match e.phase, e.code with
  | .indexer, .started => indexerStarted e
  | .indexer, .candidatesFound => candidatesFound e
  | .indexer, .candidatesFiltered => candidatesFiltered e
  | .indexer, .failure => indexerFailed
  | .query, .queryAsked => queried .queryAsked e
  | .query, .queryAskedFiltered => queried .queryAskedFiltered e
  | .query, .failure => queried .queryFailures e
  | .retrieval, .started => retrievalStarted e
  | .retrieval, .failure => retrievalFailed e
  | .retrieval, .firstByte => firstByte e
  | .retrieval, .success => retrievalSucceeded e
  | _, _ => .ignore

/-- Applies the rule of an event, at the time `now`. -/
def event (now : Binary64) (t : LiveTable) (e : Event) : Metered := (rule e).apply now t e.retrieval

/-- Removes the retrievals whose time is up at `now`, and counts them. -/
def expire (now : Binary64) (t : LiveTable) : Metered :=
  let (expired, t) := t.expire now
  { table := t, updates := expired.map fun _ => .count .expired }

end Metering

end RetrievalTelemetry
