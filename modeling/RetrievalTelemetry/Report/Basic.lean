/-
The report on an event log.

The events of each retrieval are gathered into a few facts, whatever their order in the
log, and the report adds up the facts.  The success of a retrieval is its earliest success
event, and its first byte the earliest one that came from the same provider.  Events of the
indexer name candidates and not attempts, so they tell nothing about transports.
-/
import RetrievalTelemetry.Event.Basic
import RetrievalTelemetry.Provider.Transport
import RetrievalTelemetry.Report.Percentile

namespace RetrievalTelemetry

/-- What the log says about one retrieval. -/
structure RetrievalFacts where
  /-- The time of the earliest event. -/
  begin : Timestamp
  bitswap : Bool := false
  graphsync : Bool := false
  /-- Whether a single provider was tried in the retrieval phase. -/
  pastQuery : Bool := false
  /-- The earliest success. -/
  success : Option Event := none
  /-- All first bytes, in the order of the log. -/
  firstBytes : List Event := []

namespace RetrievalFacts

/-- Nothing but the time of one event. -/
def ofEvent (e : Event) : RetrievalFacts := { begin := e.time }

/-- Takes note of the transport of an event. -/
def noteTransport (f : RetrievalFacts) (e : Event) : RetrievalFacts :=
  if e.phase = .indexer then f
  else if Transport.isAgnostic e.provider then { f with bitswap := true }
  else { f with graphsync := true, pastQuery := f.pastQuery || e.phase = .retrieval }

/-- Takes note of what an event reports. -/
def noteCode (f : RetrievalFacts) (e : Event) : RetrievalFacts :=
  match e.code with
  | .success =>
    match f.success with
    | none => { f with success := some e }
    | some earlier => if e.time.isBefore earlier.time then { f with success := some e } else f
  | .firstByte => { f with firstBytes := f.firstBytes ++ [e] }
  | _ => f

/-- Takes note of an event. -/
def note (f : RetrievalFacts) (e : Event) : RetrievalFacts :=
  let f := if e.time.isBefore f.begin then { f with begin := e.time } else f
  (f.noteTransport e).noteCode e

/-- The first byte from the provider that succeeded: the earliest one, and of equally early ones the
first in the log. -/
def firstByteOf (f : RetrievalFacts) (success : Event) : Option Event :=
  (f.firstBytes.filter fun e => e.provider = success.provider).foldl
    (fun best e =>
      match best with
      | none => some e
      | some b => if e.time.isBefore b.time then some e else some b)
    none

/-- The facts of all retrievals in a log, in the order of their first events. -/
def ofLog (events : List Event) : List (Uuid × RetrievalFacts) :=
  events.foldl
    (fun all e => putField e.retrieval (((all.lookup e.retrieval).getD (ofEvent e)).note e) all) []

end RetrievalFacts

/-- The sums over successful retrievals. -/
structure SuccessTotals where
  bitswap : Nat := 0
  graphsync : Nat := 0
  /-- The number of transfers with a size and a first byte, their bytes and their seconds. -/
  transfers : Nat := 0
  bytes : Int := 0
  seconds : Binary64 := Binary64.zero false
  /-- The seconds to each first byte. -/
  firstByte : List Binary64 := []
  /-- The size of each download. -/
  sizes : List Binary64 := []

namespace SuccessTotals

/-- Adds the size of a download. -/
def addSize (totals : SuccessTotals) : Option Int → Except ArithmeticError SuccessTotals
  | none => .ok totals
  | some bytes =>
    match (Number.int bytes).toDouble? with
    | none => .error .tooLarge
    | some size => .ok { totals with sizes := totals.sizes ++ [size] }

/-- Adds the first byte of a success, and the transfer that followed if its size is known. -/
def addFirstByte (totals : SuccessTotals) (f : RetrievalFacts) (success : Event) : SuccessTotals :=
  match f.firstByteOf success with
  | none => totals
  | some first =>
    let totals :=
      { totals with firstByte := totals.firstByte ++ [(first.time.since f.begin).toSeconds] }
    match success.received? with
    | none => totals
    | some bytes =>
      { totals with
        transfers := totals.transfers + 1
        bytes := totals.bytes + bytes
        seconds := totals.seconds.add (success.time.since first.time).toSeconds }

/-- Adds the facts of one retrieval. -/
def add (totals : SuccessTotals) (f : RetrievalFacts) : Except ArithmeticError SuccessTotals :=
  match f.success with
  | none => .ok totals
  | some success => do
    let totals := if Transport.isAgnostic success.provider then { totals with bitswap := totals.bitswap + 1 }
      else { totals with graphsync := totals.graphsync + 1 }
    let totals ← totals.addSize success.received?
    .ok (totals.addFirstByte f success)

/-- The bytes per second over all transfers, zero if they took no time; none without transfers. -/
def bandwidth (totals : SuccessTotals) : Except ArithmeticError (Option Binary64) :=
  if totals.transfers = 0 then .ok none
  else if totals.seconds.eq (Binary64.zero false) then .ok (some (Binary64.zero false))
  else
    match (Number.int totals.bytes).toDouble? with
    | none => .error .tooLarge
    | some bytes => .ok (some (bytes.div totals.seconds))

end SuccessTotals

/-- The report. -/
structure Report where
  retrievals : Nat
  attemptedBitswap : Nat
  attemptedGraphsync : Nat
  attemptedBoth : Nat
  attemptedEither : Nat
  bitswapSuccesses : Nat
  graphsyncSuccesses : Nat
  /-- Bytes per second, if any transfer was seen from first byte to end. -/
  bandwidth : Option Binary64
  /-- Percentiles of the seconds to the first byte. -/
  firstByte : List Binary64
  /-- Percentiles of the size of downloads. -/
  size : List Binary64
  /-- Retrievals that tried a single provider in the retrieval phase. -/
  pastQuery : Nat

namespace Report

def ofLog (events : List Event) : Except ArithmeticError Report := do
  let facts := (RetrievalFacts.ofLog events).map (·.2)
  let totals ← facts.foldlM SuccessTotals.add {}
  let bandwidth ← totals.bandwidth
  let firstByte ← Percentile.ofSample totals.firstByte Percentile.common
  let size ← Percentile.ofSample totals.sizes Percentile.common
  .ok
    { retrievals := facts.length
      attemptedBitswap := facts.countP (·.bitswap)
      attemptedGraphsync := facts.countP (·.graphsync)
      attemptedBoth := facts.countP fun f => f.bitswap && f.graphsync
      attemptedEither := facts.countP fun f => f.bitswap || f.graphsync
      bitswapSuccesses := totals.bitswap
      graphsyncSuccesses := totals.graphsync
      bandwidth := bandwidth
      firstByte := firstByte
      size := size
      pastQuery := facts.countP (·.pastQuery) }

def doubles (xs : List Binary64) : Json := .array (xs.map fun x => .number (.double x))

def count (n : Nat) : Json := .number (.int n)

/-- The report as an object. -/
def toJson (r : Report) : Json :=
  .object
    [("totalAttempts", count r.retrievals),
     ("attemptedBitswap", count r.attemptedBitswap),
     ("attemptedGraphSync", count r.attemptedGraphsync),
     ("attemptedBoth", count r.attemptedBoth),
     ("attemptedEither", count r.attemptedEither),
     ("bitswapSuccesses", count r.bitswapSuccesses),
     ("graphSyncSuccesses", count r.graphsyncSuccesses),
     ("avgBandwidth", match r.bandwidth with
       | none => .null
       | some x => .number (.double x)),
     ("firstByte", doubles r.firstByte),
     ("downloadSize", doubles r.size),
     ("graphsyncAttemptsPastQuery", count r.pastQuery)]

end Report

end RetrievalTelemetry
