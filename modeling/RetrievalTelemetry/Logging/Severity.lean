/-
Severities, and which messages are logged.

A logger logs what reaches its threshold.  Most loggers have the common threshold; a few that
talk too much, and everything below them, never have one lower than that of warnings.
-/
import RetrievalTelemetry.Text.LetterCase

namespace RetrievalTelemetry

/-- How bad it is. -/
inductive Severity where
  | debug
  | info
  | warning
  | error
  | critical
deriving DecidableEq, Repr

namespace Severity

def all : List Severity := [debug, info, warning, error, critical]

def name : Severity → String
  | debug => "debug"
  | info => "info"
  | warning => "warning"
  | error => "error"
  | critical => "critical"

/-- The number of a severity. -/
def rank : Severity → Nat
  | debug => 10
  | info => 20
  | warning => 30
  | error => 40
  | critical => 50

/-- Other names for severities. -/
def aliases : List (String × Severity) :=
  [("warn", warning), ("fatal", critical), ("exception", error)]

def ofName? (name : String) : Option Severity :=
  (all.find? fun s => s.name == name).or (aliases.lookup name)

end Severity

/-- Why a name gives no threshold. -/
inductive ThresholdError where
  | unknown
  /-- The name of a layout of lines. -/
  | layout
  /-- The name of a table of styles. -/
  | table
deriving DecidableEq, Repr

/-- What is said about the name of a layout: it stands for the text of that layout. -/
def ThresholdError.message : ThresholdError → String
  | layout => "Unknown level: '%(levelname)s:%(name)s:%(message)s'"
  | unknown | table => ""

/-- What is logged, and how. -/
structure LogSettings where
  /-- The common threshold. -/
  threshold : Nat := 20
  /-- Whether every line is a JSON object. -/
  json : Bool := false
deriving DecidableEq, Repr

namespace LogSettings

/-- The names of thresholds. -/
def thresholds : List (String × Nat) :=
  [("CRITICAL", 50), ("FATAL", 50), ("ERROR", 40), ("WARNING", 30), ("WARN", 30), ("INFO", 20),
   ("DEBUG", 10), ("NOTSET", 0)]

/-- Settings with a threshold by name, in either case.  Two names stand for other things. -/
def ofName (name : String) (json : Bool) : Except ThresholdError LogSettings :=
  let name := Text.inCapitals name
  match thresholds.lookup name with
  | some threshold => .ok ⟨threshold, json⟩
  | none =>
    .error (if name == "BASIC_FORMAT" then .layout else if name == "_STYLES" then .table else .unknown)

/-- The loggers that talk too much. -/
def noisyLoggers : List String :=
  ["httpx", "httpcore", "urllib3", "sqlalchemy.engine", "sqlalchemy.pool", "opentelemetry",
   "uvicorn.access"]

/-- The threshold of the loggers that talk too much. -/
def noisyThreshold (s : LogSettings) : Nat := max s.threshold Severity.warning.rank

/-- Whether a logger is another one or below it. -/
def isWithin (logger parent : String) : Bool :=
  logger == parent || (parent ++ ".").toList.isPrefixOf logger.toList

def thresholdOf (s : LogSettings) (logger : String) : Nat :=
  if noisyLoggers.any (isWithin logger) then s.noisyThreshold else s.threshold

/-- Whether a logger logs messages of a severity. -/
def logs (s : LogSettings) (logger : String) (severity : Severity) : Bool :=
  s.thresholdOf logger ≤ severity.rank

end LogSettings

end RetrievalTelemetry
