/-
The correlator: the live table, the resolver and the meter, fed with events and records.

It answers with the updates that it makes, and tells them to its meter.  What stops it in the
middle of a step, be it an update that the meter cannot take, does not take back the updates
made before.
-/
import RetrievalTelemetry.Metering.Record
import RetrievalTelemetry.Metric.Meter
import RetrievalTelemetry.Provider.Resolver

namespace RetrievalTelemetry

/-- What turns events and records into updates. -/
structure Correlator where
  table : LiveTable
  /-- Without a resolver, providers have only the names that clients give them. -/
  resolver : Option Resolver := none
  /-- Without a meter, updates are only answered. -/
  meter : Option Meter := none

/-- Why a step does not come to its end. -/
inductive CorrelatorError where
  | arithmetic (error : ArithmeticError)
  | lookup (error : LookupError)
deriving DecidableEq, Repr

/-- What comes of a step. -/
structure Correlated where
  correlator : Correlator
  updates : List Update := []
  fault : Option CorrelatorError := none

namespace Correlator

/-- The number of live retrievals. -/
def inFlight (c : Correlator) : Nat := c.table.size

/-- Tells updates to the meter, if there is one. -/
def tell (c : Correlator) (updates : List Update) : Correlated :=
  match c.meter with
  | none => { correlator := c, updates := updates }
  | some meter =>
    let (meter, fault) := meter.applyAll updates
    { correlator := { c with meter := some meter }, updates := updates, fault := fault.map .arithmetic }

/-- Takes over the table of a step and tells its updates; what the meter cannot take comes before what
else stopped the step. -/
def adopt (c : Correlator) (m : Metered) : Correlated :=
  let told := { c with table := m.table }.tell m.updates
  { told with fault := told.fault.or (m.fault.map .arithmetic) }

/-- Handles an event. -/
def event (c : Correlator) (now : Binary64) (e : Event) : Correlated :=
  c.adopt (Metering.event now c.table e)

/-- Handles events in order, up to the first that does not come to its end. -/
def events (c : Correlator) (now : Binary64) : List Event → Correlated
  | [] => { correlator := c }
  | e :: rest =>
    let first := c.event now e
    match first.fault with
    | some _ => first
    | none =>
      let others := first.correlator.events now rest
      { others with updates := first.updates ++ others.updates }

/-- The names of the providers of a record. -/
def names (c : Correlator) (r : Record) : Except LookupError Metering.Names × Correlator :=
  match c.resolver with
  | none => (.ok [], c)
  | some resolver =>
    let (names, resolver) := resolver.resolveMany (Metering.providersOf r)
    (names, { c with resolver := some resolver })

/-- Handles a record whose providers have known names. -/
def recordWith (c : Correlator) (names : Metering.Names) (r : Record) : Correlated :=
  c.tell (Metering.record names r)

/-- Handles a record. -/
def record (c : Correlator) (r : Record) : Correlated :=
  match c.names r with
  | (.error e, c) => { correlator := c, fault := some (.lookup e) }
  | (.ok names, c) => c.recordWith names r

/-- Handles records in order, up to the first that does not come to its end. -/
def records (c : Correlator) : List Record → Correlated
  | [] => { correlator := c }
  | r :: rest =>
    let first := c.record r
    match first.fault with
    | some _ => first
    | none =>
      let others := first.correlator.records rest
      { others with updates := first.updates ++ others.updates }

/-- Removes the retrievals whose time is up, and counts them. -/
def expire (c : Correlator) (now : Binary64) : Correlated :=
  c.adopt (Metering.expire now c.table)

/-- Ends all lookups. -/
def stop (c : Correlator) : Correlator :=
  { c with resolver := c.resolver.map Resolver.close }

end Correlator

end RetrievalTelemetry
