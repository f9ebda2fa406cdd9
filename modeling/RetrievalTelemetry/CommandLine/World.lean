/-
What the command line can see and change: files, the environment, the logs in files and the registry
of providers.
-/
import RetrievalTelemetry.EventLog.Place
import RetrievalTelemetry.Provider.Registry
import RetrievalTelemetry.Settings.Load

namespace RetrievalTelemetry.CommandLine

/-- What stands at a path. -/
inductive FileContent where
  | missing
  | directory
  | text (content : String)
  /-- The path is too long for there to be anything. -/
  | unreachable
deriving DecidableEq, Repr

/-- The surroundings of a command. -/
structure World where
  /-- Files of text by their paths. -/
  files : List (String × String) := []
  environment : List (String × String) := []
  /-- Directories that are not known from what they hold. -/
  directories : List String := []
  /-- Logs by their paths. -/
  logs : List (String × EventLog) := []
  /-- The registry of providers. -/
  registry : Registry := fun _ _ => .unreachable

namespace World

/-- The paths of everything that exists. -/
def paths (w : World) : List String :=
  (w.files.map (·.1) ++ w.logs.map (·.1)).map FilePath.plain

/-- Whether a path without steps up behind other steps is that of a directory.  The current directory and
all above it are there. -/
def isDirectory (w : World) (path : String) : Bool :=
  path = "." || path = "/" || (FilePath.steps path.toList).all (· = "..") ||
    w.directories.contains path || w.paths.any fun other => Text.beginsWith other (path ++ "/")

/-- The path without steps up behind other steps; none if one of them begins at no directory. -/
def resolve? (w : World) (path : String) : Option String :=
  let isAbsolute := path.toList.head? = some '/'
  let shown (before : List String) : String :=
    FilePath.plain ((if isAbsolute then "/" else "") ++ String.intercalate "/" before.reverse)
  ((FilePath.steps path.toList).foldlM (fun (before : List String) step =>
    if step = ".." && !w.isDirectory (shown before) then none
    else some (FilePath.follow isAbsolute before step)) []).map shown

/-- What stands at a path without steps up behind other steps. -/
def contentAt (w : World) (path : String) : FileContent :=
  match w.files.find? fun file => FilePath.plain file.1 == path with
  | some file => .text file.2
  | none => if w.isDirectory path then .directory else .missing

/-- What stands at a path. -/
def content (w : World) (path : String) : FileContent :=
  if FilePath.isTooLong path then .unreachable else (w.resolve? path).elim .missing w.contentAt

def directoryOf (path : String) : String :=
  FilePath.plain (FilePath.root path.toList ++ String.intercalate "/" (FilePath.steps path.toList).dropLast)

/-- Whether a log can be opened at a path where there is none: in a directory, and not over anything else.
A file of a single byte passes for an empty one. -/
def allowsLog (w : World) (path : String) (access : FileAccess) : Bool :=
  !FilePath.isTooLong path && w.isDirectory (directoryOf path) &&
    (match w.contentAt path with
      | .missing => access == .full
      | .text content => content.utf8ByteSize < 2 && access != .readOnly
      | .directory | .unreachable => false)

/-- Opens the log at a place, which is made if there is none. -/
def openLog (w : World) : LogPlace → Except LogError EventLog
  | .memory _ => .ok .empty
  | .file path access =>
    match w.logs.lookup path with
    | some log => .ok log.reopen
    | none => if w.allowsLog path access then .ok .empty else .error (.failed .createTables)
  | .unusable => .error (.failed .createTables)

/-- The world with the log at a place as it is now. -/
def saveLog (w : World) (place : LogPlace) (log : EventLog) : World :=
  match place with
  | .memory _ | .unusable => w
  | .file path _ => { w with logs := putField path log w.logs }

end World

end RetrievalTelemetry.CommandLine
