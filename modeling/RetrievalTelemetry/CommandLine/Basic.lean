/-
The commands: serving requests, showing the settings, and reporting on a log.

Options for all commands stand before the command, its own ones behind it.  A command that
cannot be carried out says so and ends with status 1; one that was not given properly ends with
status 2.  A few mishaps are not foreseen; they also end with status 1, but say nothing.
-/
import RetrievalTelemetry.Check.Scalar
import RetrievalTelemetry.CommandLine.Options
import RetrievalTelemetry.CommandLine.World
import RetrievalTelemetry.EnvironmentFile
import RetrievalTelemetry.Json.Literal
import RetrievalTelemetry.Json.Printer
import RetrievalTelemetry.Report.Basic
import RetrievalTelemetry.Service.Start
import RetrievalTelemetry.Yaml.Printer

namespace RetrievalTelemetry.CommandLine

/-- Why a command is not carried out. -/
inductive Failure where
  | noEnvironmentFile (path : String)
  | settings (error : SettingsError)
  | noDatabase
  | log (error : LogError)
deriving DecidableEq, Repr

/-- What a failure says. -/
def Failure.text : Failure → String
  | noEnvironmentFile path => "Error: .env file not found: " ++ path ++ "\n"
  | settings (.unreadable path .malformed) => (SettingsError.unreadable path .malformed).message ++ "\n"
  | settings (.invalid problems) =>
    "Configuration errors:\n" ++ String.join (problems.map fun p =>
      "  - " ++ String.intercalate "." p.path ++ ": " ++ p.cause.message ++ "\n")
  | settings error => "Error: " ++ error.message ++ "\n"
  | noDatabase => "Error: no database configured (use --database or RETRIEVAL_RECORDER_DB_DSN)\n"
  | log error => "Error: " ++ error.message ++ "\n"

/-- What is not foreseen. -/
inductive Mishap where
  /-- The file of settings is a directory. -/
  | directory
  /-- The path of a file is too long. -/
  | unreachable
  /-- A variable of a file cannot be put into the environment. -/
  | unusableVariable
  | settings (error : SettingsError)
  | place (error : LogPlaceError)
  | log (error : LogError)
  | start (error : StartError)
  | arithmetic (error : ArithmeticError)
deriving DecidableEq, Repr

/-- How a command ends. -/
inductive Ending where
  | done
  | misused
  | failed (failure : Failure)
  | halted (mishap : Mishap)
deriving DecidableEq, Repr

/-- The status that a command ends with. -/
def Ending.status : Ending → Nat
  | done => 0
  | misused => 2
  | failed _ => 1
  | halted _ => 1

/-- A server that is to be started. -/
structure Start where
  settings : Settings
  service : Service

/-- What comes of a command. -/
structure Result where
  ending : Ending := .done
  /-- What it prints. -/
  out : String := ""
  /-- What it says besides. -/
  notes : String := ""
  start : Option Start := none
  world : World

namespace Result

/-- What it says besides, together with why it failed. -/
def said (r : Result) : String :=
  match r.ending with
  | .failed failure => r.notes ++ failure.text
  | _ => r.notes

end Result

/-! ### Options -/

def commonForms : List OptionForm :=
  [{ names := ["--version", "-V"] }, { names := ["--help"] }, { names := ["--no-dotenv"] },
   { names := ["--env-file"], takesValue := true }, { names := ["--verbose", "-v"] },
   { names := ["--json-logs"] }]

/-- The option for the file of settings. -/
def configForm : OptionForm := { names := ["--config", "-c"], takesValue := true }

/-- The option for the place of the log. -/
def databaseForm : OptionForm := { names := ["--database", "-d"], takesValue := true }

/-- The commands. -/
inductive Command where
  | serve
  | showConfig
  | stats
deriving DecidableEq, Repr

namespace Command

def all : List Command := [serve, showConfig, stats]

def name : Command → String
  | serve => "serve"
  | showConfig => "show-config"
  | stats => "stats"

def forms : Command → List OptionForm
  | serve =>
    [configForm, { names := ["--host"], takesValue := true }, { names := ["--port", "-p"], takesValue := true },
     databaseForm, { names := ["--no-resolve"] }, { names := ["--help"] }]
  | showConfig => [configForm, { names := ["--help"] }]
  | stats => [configForm, databaseForm, { names := ["--wipe"] }, { names := ["--json"] }, { names := ["--help"] }]

end Command

/-- Whether an option that is a path, if it is given, can be one. -/
def hasPath (g : Given) (name : String) : Bool :=
  !(g.value? name).any fun path => path.toList.contains '\x00'

/-! ### Settings -/

open Yaml (Atom)

/-- A section with the entries that are there, unless there are none. -/
def sectionOf (name : String) (entries : List (String × Option Atom)) : Settings.Entries :=
  let given := entries.filterMap fun entry => entry.2.map fun value => (Atom.text entry.1, Yaml.atom value)
  if given.isEmpty then [] else [(.text name, .mapping given)]

/-- The settings that options give. -/
def overrides (port : Option Int) (g : Given) : Settings.Entries :=
  sectionOf "server"
      [("host", (g.value? "--host").map .text), ("port", port.map fun n => .number (.int n))] ++
    sectionOf "database" [("url", (g.value? "--database").map .text)] ++
    sectionOf "providers" [("enabled", if g.has "--no-resolve" then some (.bool false) else none)]

def loadSettings (w : World) (g : Given) (entries : Settings.Entries) : Except Ending Settings :=
  let path := (g.value? "--config").map FilePath.tidy
  let load (text : Option String) : Except Ending Settings :=
    match Settings.load (path.map fun p => ⟨p, text⟩) w.environment entries with
    | .ok settings => .ok settings
    | .error error => .error (if error.isForeseen then .failed (.settings error) else .halted (.settings error))
  match path.map w.content with
  | some .directory => .error (.halted .directory)
  | some .unreachable => .error (.halted .unreachable)
  | some (.text text) => load (some text)
  | some .missing | none => load none

/-! ### Commands -/

/-- The result of a step that a command may end with. -/
def settle (w : World) (step : Except Ending Result) : Result :=
  match step with
  | .ok result => result
  | .error ending => { ending := ending, world := w }

/-- The place that a URL denotes, and the log there. -/
def openPlace (w : World) (url : String) : Except Mishap (LogPlace × EventLog) :=
  match LogPlace.ofUrl url with
  | .error e => .error (.place e)
  | .ok place =>
    match w.openLog place with
    | .error e => .error (.log e)
    | .ok log => .ok (place, log)

/-- The settings that say where events are kept, if they do. -/
def urlOf (settings : Settings) : Option String :=
  settings.database.url.filter fun url => !url.isEmpty

/-- The service that settings ask for, and the world after its log was opened. -/
def serviceFor (w : World) (settings : Settings) : Except Mishap (Service × World) := do
  let (log, sharesLog, world) ← match urlOf settings with
    | none => .ok (none, true, w)
    | some url =>
      (openPlace w url).map fun (place, log) => (some log, place.isShared, w.saveLog place log)
  match Service.ofSettings settings w.registry log with
  | .ok service => .ok ({ service with sharesLog := sharesLog }, world)
  | .error e => .error (.start e)

def startServer (w : World) (port : Option Int) (g : Given) : Result :=
  settle w do
    let settings ← loadSettings w g (overrides port g)
    match serviceFor w settings with
    | .error mishap => .error (.halted mishap)
    | .ok (service, world) =>
      .ok
        { out := "Starting retrieval recorder on http://" ++ settings.server.host ++ ":" ++
            toString settings.server.port ++ "\n"
          start := some ⟨settings, service⟩
          world := world }

def showSettings (w : World) (g : Given) : Result :=
  settle w do
    let settings ← loadSettings w g []
    .ok { out := Yaml.renderSections settings.toSections, world := w }

/-- The lines of a report: the fields of the object by their names in it, and what they are called. -/
def reportLabels : List (String × String) :=
  [("totalAttempts", "Total Attempts"), ("attemptedBitswap", "Attempted Bitswap"),
   ("attemptedGraphSync", "Attempted GraphSync"), ("attemptedBoth", "Attempted Both"),
   ("attemptedEither", "Attempted Either"), ("bitswapSuccesses", "Bitswap Successes"),
   ("graphSyncSuccesses", "GraphSync Successes"), ("avgBandwidth", "Average Bandwidth"),
   ("firstByte", "Time to first byte"), ("downloadSize", "Download Size"),
   ("graphsyncAttemptsPastQuery", "GraphSync Attempts Past Query")]

/-- The width of the names in a report. -/
def labelWidth : Nat := (reportLabels.map fun label => label.2.length).foldl max 0

def reportLines (report : Json) : String :=
  String.join (reportLabels.map fun label =>
    label.2 ++ String.ofList (List.replicate (labelWidth - label.2.length) ' ') ++ "  " ++
      ((report.field? label.1).getD .null).display ++ "\n")

/-- A report as it is printed. -/
def reportText (json : Bool) (report : Report) : String :=
  if json then report.toJson.render .lines ++ "\n" else reportLines report.toJson

/-- Wipes the log at a place, unless it may only be read. -/
def wiped (place : LogPlace) (log : EventLog) : Except LogError (Nat × EventLog) :=
  match place with
  | .file _ .readOnly => .error (.failed .wipeEvents)
  | _ => log.wipeEvents

/-- Wipes a log that was reported on, and says so. -/
def wipe (w : World) (place : LogPlace) (log : EventLog) (printed : String) : Result :=
  match wiped place log with
  | .error e => { ending := .failed (.log e), out := printed, world := w }
  | .ok (count, log) =>
    { out := printed
      notes := "Wiped " ++ toString count ++ " events from the event log.\n"
      world := w.saveLog place log }

/-- Reports on a log. -/
def reportOn (w : World) (g : Given) : Result :=
  settle w do
    let settings ← loadSettings w g (overrides none g)
    let url ← match urlOf settings with
      | none => .error (.failed .noDatabase)
      | some url => .ok url
    let (place, log) ← match openPlace w url with
      | .ok opened => .ok opened
      | .error (.log e) => .error (.failed (.log e))
      | .error mishap => .error (.halted mishap)
    let world := w.saveLog place log
    let events ← match log.fetchEvents with
      | .ok events => .ok events
      | .error e => .error (.failed (.log e))
    match Report.ofLog events with
    | .error e => .ok { ending := .halted (.arithmetic e), world := world }
    | .ok report =>
      let printed := reportText (g.has "--json") report
      .ok (if g.has "--wipe" then wipe world place log printed else { out := printed, world := world })

/-- Carries out a command with the arguments behind its name. -/
def Command.run (command : Command) (w : World) (arguments : List String) : Result :=
  let misused : Result := { ending := .misused, world := w }
  match given? command.forms false arguments with
  | none => misused
  | some g =>
    let port := (g.value? "--port").map fun text => (Scalar.integerOfText text).toOption
    if g.has "--help" then { world := w }
    else if port = some none || !g.words.isEmpty || !hasPath g "--config" then misused
    else
      match command with
      | .serve => startServer w port.join g
      | .showConfig => showSettings w g
      | .stats => reportOn w g

/-! ### All together -/

def version : String := "0.1.0"

/-- The environment with what a file adds to it, as far as options ask for it, and what to say. -/
def prepare (w : World) (g : Given) : Except Ending (World × String) :=
  match g.value? "--env-file" with
  | none => .ok (w, "")
  | some path =>
    let path := FilePath.tidy path
    if g.has "--no-dotenv" then .ok (w, "Warning: --env-file ignored because --no-dotenv is set.\n")
    else
      match w.content path with
      | .missing => .error (.failed (.noEnvironmentFile path))
      | .unreachable => .error (.halted .unreachable)
      | .directory => .ok (w, "")
      | .text text =>
        match EnvironmentFile.load? w.environment text with
        | some environment => .ok ({ w with environment := environment }, "")
        | none => .error (.halted .unusableVariable)

/-- The answer to an option that asks about the program, if there is one. -/
def answer? (w : World) (g : Given) : Option Result :=
  (g.options.find? fun o => o.1 == "--version" || o.1 == "--help").map fun o =>
    { out := if o.1 = "--version" then "retrieval-recorder version " ++ version ++ "\n" else ""
      world := w }

/-- The words behind the options for all commands, where a command is expected: if there is none, they may
still be options that ask about the program. -/
def runWords (w : World) (g : Given) : Result :=
  let misused : Result := { ending := .misused, world := w }
  match g.words with
  | [] => misused
  | word :: rest =>
    match Command.all.find? fun command => command.name == word with
    | none =>
      if word.startsWith "-" then ((given? commonForms true g.words).bind (answer? w)).getD misused
      else misused
    | some command =>
      match prepare w g with
      | .error ending => { ending := ending, world := w }
      | .ok (w, notes) =>
        let result := command.run w rest
        { result with notes := notes ++ result.notes }

/-- Carries out a command line. -/
def run (w : World) (arguments : List String) : Result :=
  let misused : Result := { ending := .misused, world := w }
  if arguments.isEmpty then misused
  else
    match given? commonForms true arguments with
    | none => misused
    | some g => (answer? w g).getD (if hasPath g "--env-file" then runWords w g else misused)

end RetrievalTelemetry.CommandLine
