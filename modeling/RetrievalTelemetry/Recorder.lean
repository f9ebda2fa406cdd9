/-
The recorder: batches are stored first and correlated afterwards.

A batch that could not be stored is not correlated, so a client can send it again without
anything being counted twice.  Without a log, batches are only correlated.
-/
import RetrievalTelemetry.Correlator
import RetrievalTelemetry.EventLog.Store

namespace RetrievalTelemetry

/-- Log and correlator together. -/
structure Recorder where
  correlator : Correlator
  log : Option EventLog := none
  started : Bool := false

/-- Why a batch is not recorded to its end. -/
inductive RecorderError where
  | storage (error : LogError)
  | correlation (error : CorrelatorError)
deriving DecidableEq, Repr

/-- What comes of a batch. -/
structure Recorded where
  recorder : Recorder
  updates : List Update := []
  error : Option RecorderError := none

namespace Recorder

/-- The number of live retrievals. -/
def inFlight (r : Recorder) : Nat := r.correlator.inFlight

/-- Whether batches are stored. -/
def isPersistent (r : Recorder) : Bool := r.log.isSome

/-- Begins to work. -/
def start (r : Recorder) : Recorder := { r with started := true }

/-- Ends all work and closes the log.  A recorder that neither works nor holds anything is left
alone. -/
def stop (r : Recorder) : Recorder :=
  if !r.started && r.log.isNone && r.correlator.meter.isNone then r
  else
    { r with
      correlator := r.correlator.stop
      log := r.log.map EventLog.close
      started := false }

/-- Puts a batch into the log, if there is one. -/
def storeWith (r : Recorder) (insert : EventLog → Except LogError (Nat × EventLog)) :
    Except LogError Recorder :=
  match r.log with
  | none => .ok r
  | some log => do
    let (_, log) ← insert log
    .ok { r with log := some log }

/-- Takes over the correlator of a step and passes on the rest. -/
def adopt (r : Recorder) (c : Correlated) : Recorded :=
  { recorder := { r with correlator := c.correlator }
    updates := c.updates
    error := c.fault.map .correlation }

/-- Records a batch of any kind of items: the log takes it by `insert`, and then the correlator goes
through it by `run`. -/
def recordBatch {α : Type} (insert : EventLog → List α → Except LogError (Nat × EventLog))
    (run : Correlator → List α → Correlated) (r : Recorder) (items : List α) : Recorded :=
  match r.storeWith fun log => insert log items with
  | .error error => { recorder := r, error := some (.storage error) }
  | .ok r => r.adopt (run r.correlator items)

/-- Records a batch of events. -/
def recordEvents (r : Recorder) (now : Binary64) (events : List Event) : Recorded :=
  r.recordBatch EventLog.insertEvents (fun c items => c.events now items) events

/-- Records a batch of records. -/
def recordRecords (r : Recorder) (records : List Record) : Recorded :=
  r.recordBatch EventLog.insertRecords Correlator.records records

end Recorder

end RetrievalTelemetry
