/-
Checking settings that people have written.

Every section is a mapping with known names; what is left out keeps its usual value, and a name
that is not known is reported behind the known ones, in the order of writing.
-/
import RetrievalTelemetry.Check.Scalar
import RetrievalTelemetry.Settings.Basic
import RetrievalTelemetry.Yaml.Value

namespace RetrievalTelemetry.Settings

open Yaml (Atom)

/-- The entries of a mapping. -/
abbrev Entries := List (Atom × Yaml)

/-- The value of a name, checked, or the usual one. -/
def field {α : Type} (name : String) (usual : α) (check : Scalar → Checked α) (entries : Entries) : Checked α :=
  match entries.lookup (.text name) with
  | none => .valid usual
  | some value => (check value.scalar).under name

/-- What is wrong with a key that is none of the known names. -/
def strangeKey (names : List String) : Atom → Option Cause
  | .text name => if names.contains name then none else some .unexpected
  | _ => some .notName

/-- Checks that only known names occur. -/
def onlyNames (names : List String) (entries : Entries) : Checked Unit :=
  let problems := entries.filterMap fun entry =>
    (strangeKey names entry.1).map fun cause => { path := [entry.1.step], cause : Problem }
  if problems.isEmpty then .valid () else .invalid problems

/-- A section: a mapping with known names, known by the name of its model when it is not a mapping. -/
def mappingOf {α : Type} (model : String) (names : List String) (check : Entries → Checked α) :
    Yaml → Checked α
  | .mapping entries => (fun a _ => a) <$> check entries <*> onlyNames names entries
  | _ => .refuse (.notSection model)

/-- A section that may be left out. -/
def part {α : Type} (name : String) (usual : α) (check : Yaml → Checked α) (entries : Entries) : Checked α :=
  match entries.lookup (.text name) with
  | none => .valid usual
  | some value => (check value).under name

/-- The largest port. -/
def maxPort : Int := 65535

def port (s : Scalar) : Checked Int :=
  s.asInteger.andThen fun n =>
    if maxPort < n then .refuse (.above maxPort) else if n ≤ 0 then .refuse (.notAbove 0) else .valid n

def textOrNull : Scalar → Checked (Option String)
  | .null => .valid none
  | s => some <$> s.asText

/-- The section on the server. -/
def serverOf : Yaml → Checked ServerSettings :=
  mappingOf "ServerConfig" ["host", "port"] fun e =>
    let usual : ServerSettings := {}
    ServerSettings.mk <$> field "host" usual.host Scalar.asText e <*> field "port" usual.port port e

/-- The section on the database. -/
def databaseOf : Yaml → Checked DatabaseSettings :=
  mappingOf "DatabaseConfig" ["url"] fun e =>
    let usual : DatabaseSettings := {}
    DatabaseSettings.mk <$> field "url" usual.url textOrNull e

/-- The section on live retrievals. -/
def aggregationOf : Yaml → Checked AggregationSettings :=
  mappingOf "AggregationConfig" ["retrieval_timeout_sec", "state_pool_size"] fun e =>
    let usual : AggregationSettings := {}
    AggregationSettings.mk <$> field "retrieval_timeout_sec" usual.retrievalTimeout Scalar.asPositiveDouble e
      <*> field "state_pool_size" usual.poolSize (Scalar.asIntegerFrom 0) e

/-- The section on providers. -/
def providersOf : Yaml → Checked ProviderSettings :=
  mappingOf "ProviderResolutionConfig" ["enabled", "endpoint", "timeout_sec", "cache_size", "max_workers"]
    fun e =>
      let usual : ProviderSettings := {}
      ProviderSettings.mk <$> field "enabled" usual.enabled Scalar.asBoolean e
        <*> field "endpoint" usual.endpoint Scalar.asText e
        <*> field "timeout_sec" usual.timeout Scalar.asPositiveDouble e
        <*> field "cache_size" usual.cacheSize Scalar.asPositiveInteger e
        <*> field "max_workers" usual.maxWorkers Scalar.asPositiveInteger e

/-- The section on metrics. -/
def metricsOf : Yaml → Checked MetricSettings :=
  mappingOf "MetricsConfig" ["prometheus", "meter_name"] fun e =>
    let usual : MetricSettings := {}
    MetricSettings.mk <$> field "prometheus" usual.prometheus Scalar.asBoolean e
      <*> field "meter_name" usual.meterName Scalar.asText e

/-- The section on the log. -/
def loggingOf : Yaml → Checked LogOptions :=
  mappingOf "LoggingConfig" ["level", "json_output"] fun e =>
    let usual : LogOptions := {}
    LogOptions.mk <$> field "level" usual.level (Scalar.asOneOf LogLevel.all LogLevel.name) e
      <*> field "json_output" usual.json Scalar.asBoolean e

/-- The settings that entries by section denote. -/
def check (e : Entries) : Checked Settings :=
  (fun settings _ => settings) <$>
    (Settings.mk <$> part "server" {} serverOf e <*> part "database" {} databaseOf e
      <*> part "aggregation" {} aggregationOf e <*> part "providers" {} providersOf e
      <*> part "metrics" {} metricsOf e <*> part "logging" {} loggingOf e)
    <*> onlyNames ["server", "database", "aggregation", "providers", "metrics", "logging"] e

end RetrievalTelemetry.Settings
