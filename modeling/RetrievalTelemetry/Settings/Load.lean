/-
Loading settings from their sources.

A file comes first, the place of the database from the environment is laid over it, and what was
said on the command line over both.
-/
import RetrievalTelemetry.FilePath
import RetrievalTelemetry.Settings.Check
import RetrievalTelemetry.Yaml.Graph.Value
import RetrievalTelemetry.Yaml.Overlay

namespace RetrievalTelemetry

/-- A file of settings: its path, and its text if it exists. -/
structure SettingsFile where
  path : String
  text : Option String

/-- Why settings cannot be loaded. -/
inductive SettingsError where
  | missingFile (path : String)
  | unreadable (path : String) (error : Yaml.Fault)
  /-- The file holds something other than a mapping. -/
  | notMapping (path kind : String)
  /-- The name of a section is not a text. -/
  | unnamedSection
  | invalid (problems : List Problem)
deriving DecidableEq, Repr

namespace SettingsError

def message : SettingsError → String
  | missingFile path => "Config file not found: " ++ path
  | unreadable path .malformed => "YAML syntax error in " ++ path
  | unreadable _ error => error.message
  | notMapping path kind => "Config file '" ++ path ++ "' must be a YAML mapping, got " ++ kind
  | unnamedSection => "keywords must be strings"
  | invalid problems => Problem.text problems

/-- Whether an error is foreseen, so that it can be reported. -/
def isForeseen : SettingsError → Bool
  | unreadable _ error => error.isForeseen
  | unnamedSection => false
  | _ => true

end SettingsError

namespace Settings

open Yaml (Atom)

/-- The variable for the place of the database. -/
def databaseVariable : String := "RETRIEVAL_RECORDER_DB_DSN"

/-- How deep the values of settings can lie: in a section of the whole. -/
def depth : Nat := 2

/-- The entries that a file holds, with values to a depth; a document without a value holds none. -/
def entriesTo (depth : Nat) (file : SettingsFile) : Except SettingsError Entries :=
  let path := FilePath.tidy file.path
  match file.text with
  | none => .error (.missingFile path)
  | some text =>
    match Yaml.ofText depth text with
    | .error e => .error (.unreadable path e)
    | .ok document =>
      if document.isVoid then .ok []
      else
        match document with
        | .mapping entries => .ok entries
        | other => .error (.notMapping path other.kindName)

/-- The entries that a file holds, as deep as settings can lie. -/
def fileEntries (file : SettingsFile) : Except SettingsError Entries := entriesTo depth file

/-- What the environment says. -/
def environmentEntries (environment : List (String × String)) : Entries :=
  match environment.lookup databaseVariable with
  | none => []
  | some url =>
    if url.isEmpty then []
    else [(.text "database", .mapping [(.text "url", .atom (.text url))])]

/-- The entries of all sources, the later ones laid over the earlier ones. -/
def layered (file environment overrides : Entries) : Entries :=
  Yaml.overlayEntries (Yaml.overlayEntries file environment) overrides

/-- Whether a key is a text. -/
def isNamed : Atom → Bool
  | .text _ | .garbled _ => true
  | _ => false

/-- The settings that entries denote. -/
def ofEntries (entries : Entries) : Except SettingsError Settings :=
  if entries.all fun entry => isNamed entry.1 then
    match check entries with
    | .valid settings => .ok settings
    | .invalid problems => .error (.invalid problems)
  else .error .unnamedSection

/-- Loads settings from a file, if one is given, the environment and the command line. -/
def load (file : Option SettingsFile) (environment : List (String × String)) (overrides : Entries) :
    Except SettingsError Settings := do
  let entries ← file.elim (.ok []) fileEntries
  ofEntries (layered entries (environmentEntries environment) overrides)

end Settings

end RetrievalTelemetry
