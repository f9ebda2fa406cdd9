/-
A service as the settings ask for it.
-/
import RetrievalTelemetry.Service.Basic
import RetrievalTelemetry.Settings.Basic

namespace RetrievalTelemetry

/-- Why there can be no service with such settings. -/
inductive StartError where
  | resolver (error : ResolverError)
  | pool (error : PoolError)
  | timeout (error : TimeoutError)
deriving DecidableEq, Repr

def StartError.message : StartError → String
  | resolver error => error.message
  | pool error => error.message
  | timeout error => error.message

namespace Service

/-- The resolver that the settings ask for, if they ask for one. -/
def resolverFor (settings : ProviderSettings) (registry : Registry) : Except StartError (Option Resolver) :=
  if settings.enabled then
    match Resolver.ofRegistry registry settings.endpoint settings.cacheSize settings.maxWorkers with
    | .ok resolver => .ok (some resolver)
    | .error e => .error (.resolver e)
  else .ok none

/-- The table that the settings ask for. -/
def tableFor (settings : AggregationSettings) : Except StartError LiveTable :=
  match Pool.ofCapacity settings.poolSize with
  | .error e => .error (.pool e)
  | .ok pool =>
    match LiveTable.ofTimeout (.double settings.retrievalTimeout) pool with
    | .error e => .error (.timeout e)
    | .ok table => .ok table

/-- A service with its own meter, which keeps events in a log if there is one. -/
def ofSettings (settings : Settings) (registry : Registry) (log : Option EventLog) :
    Except StartError Service := do
  let resolver ← resolverFor settings.providers registry
  let table ← tableFor settings.aggregation
  .ok
    { recorder := { correlator := ⟨table, resolver, some { name := settings.metrics.meterName }⟩, log := log }
      exposesMetrics := settings.metrics.prometheus }

/-- Begins to work. -/
def start (s : Service) : Service := { s with recorder := s.recorder.start }

end Service

end RetrievalTelemetry
