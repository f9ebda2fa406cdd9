/-
The settings of a recorder, in sections, with the values they have if nothing else is said.
-/
import RetrievalTelemetry.Yaml.Atom

namespace RetrievalTelemetry

/-- Where requests are listened for. -/
structure ServerSettings where
  host : String := "0.0.0.0"
  port : Int := 8080

/-- Where events are kept. -/
structure DatabaseSettings where
  /-- Without a place, events are not kept. -/
  url : Option String := none

/-- How live retrievals are kept. -/
structure AggregationSettings where
  /-- How many seconds a retrieval lives at most. -/
  retrievalTimeout : Binary64 := Binary64.ofInt 60
  /-- How many slots are kept for use again. -/
  poolSize : Int := 1024

/-- How providers are looked up. -/
structure ProviderSettings where
  enabled : Bool := true
  endpoint : String := "https://heyfil.prod.cid.contact"
  /-- How many seconds a lookup lasts at most. -/
  timeout : Binary64 := Binary64.ofInt 30
  cacheSize : Int := 10000
  maxWorkers : Int := 10

/-- How metrics are shown. -/
structure MetricSettings where
  prometheus : Bool := true
  meterName : String := "retrieval-recorder"

/-- The severities that a log can begin with. -/
inductive LogLevel where
  | debug
  | info
  | warning
  | error
deriving DecidableEq, Repr

namespace LogLevel

def all : List LogLevel := [debug, info, warning, error]

def name : LogLevel → String
  | debug => "DEBUG"
  | info => "INFO"
  | warning => "WARNING"
  | error => "ERROR"

end LogLevel

/-- How the log is written. -/
structure LogOptions where
  level : LogLevel := .info
  json : Bool := false

/-- All settings. -/
structure Settings where
  server : ServerSettings := {}
  database : DatabaseSettings := {}
  aggregation : AggregationSettings := {}
  providers : ProviderSettings := {}
  metrics : MetricSettings := {}
  logging : LogOptions := {}

namespace Settings

open Yaml (Atom)

def whole (n : Int) : Atom := .number (.int n)

/-- The settings by section and name. -/
def toSections (s : Settings) : List (String × List (String × Atom)) :=
  [("server", [("host", .text s.server.host), ("port", whole s.server.port)]),
   ("database", [("url", s.database.url.elim .null .text)]),
   ("aggregation",
    [("retrieval_timeout_sec", .number (.double s.aggregation.retrievalTimeout)),
     ("state_pool_size", whole s.aggregation.poolSize)]),
   ("providers",
    [("enabled", .bool s.providers.enabled), ("endpoint", .text s.providers.endpoint),
     ("timeout_sec", .number (.double s.providers.timeout)), ("cache_size", whole s.providers.cacheSize),
     ("max_workers", whole s.providers.maxWorkers)]),
   ("metrics", [("prometheus", .bool s.metrics.prometheus), ("meter_name", .text s.metrics.meterName)]),
   ("logging", [("level", .text s.logging.level.name), ("json_output", .bool s.logging.json)])]

end Settings

end RetrievalTelemetry
