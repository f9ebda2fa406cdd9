/-
The program: the command line in the world as it is.

Files that the arguments may mean are read beforehand.  Logs last as long as the program runs.
A server answers requests from standard input, one to a line: method, target, and a body that
is taken for JSON.
-/
import RetrievalTelemetry.CommandLine.Basic

namespace RetrievalTelemetry.CommandLine

/-- The texts that may be paths in an argument: all of it, what follows an equals sign, and what follows
a letter behind a dash. -/
def possiblePaths (argument : String) : List String :=
  let cs := argument.toList
  [argument, String.ofList ((cs.dropWhile (· ≠ '=')).drop 1), String.ofList (cs.drop 2)]

/-- The words of a text, which may be the names of variables or places of logs. -/
def words (p : Char → Bool) (text : String) : List String :=
  ((Text.splitBy (fun c => !p c) text.toList).map String.ofList).filter (· ≠ "")

/-- The path of the log that a text may be the place of. -/
def possibleLog (text : String) : List String :=
  match LogPlace.ofUrl text with
  | .ok (.file path _) => [path]
  | _ => []

/-- The text files among paths. -/
def readFiles (paths : List String) : IO (List (String × String)) :=
  paths.filterMapM fun (path : String) => do
    try return some (path, ← IO.FS.readFile path)
    catch _ => return none

/-- The world as far as arguments lead to it.  Logs are not written to files, so any directory will do for
them. -/
def observe (arguments : List String) : IO World := do
  let paths := (arguments.flatMap possiblePaths).map FilePath.tidy
  let files ← readFiles paths
  let names := Settings.databaseVariable ::
    files.flatMap fun file => words (fun c => c.isAlphanum || c = '_') file.2
  let environment ← names.eraseDups.filterMapM fun name => do
    return (← IO.getEnv name).map fun value => (name, value)
  let texts := arguments.flatMap possiblePaths ++ environment.map (·.2) ++
    files.flatMap fun file => words (fun c => !Text.isBlank c && c ≠ '=') file.2
  let directories := texts.flatMap fun text => (possibleLog text).map World.directoryOf
  return { files := files, environment := environment, directories := directories }

/-- The time on a clock that never goes back, in seconds. -/
def now : IO Binary64 := do
  return Binary64.ofRatio false (← IO.monoMsNow) 1000

def requestOfLine (line : String) : Request :=
  let cs := Text.trim Text.isBlank line.toList
  let method := cs.takeWhile (· ≠ ' ')
  let rest := (cs.drop method.length).dropWhile (· = ' ')
  let target := rest.takeWhile (· ≠ ' ')
  let body := (rest.drop target.length).drop 1
  { method := String.ofList method
    target := String.ofList target
    contentType := if body.isEmpty then none else some "application/json"
    body := (String.ofList body).toUTF8 }

/-- Answers requests until there are no more. -/
partial def answerRequests (service : Service) : IO Unit := do
  let line ← (← IO.getStdin).getLine
  unless line.isEmpty do
    let time ← now
    let exchange := (service.expire time).handle time (requestOfLine line)
    IO.println (toString exchange.response.status ++ " " ++ exchange.response.body)
    answerRequests exchange.service

end RetrievalTelemetry.CommandLine

open RetrievalTelemetry in
/-- Carries out the command line. -/
def main (arguments : List String) : IO UInt32 := do
  let result := CommandLine.run (← CommandLine.observe arguments) arguments
  IO.print result.out
  IO.eprint result.said
  match result.start with
  | some start => CommandLine.answerRequests start.service.start
  | none => pure ()
  return result.ending.status.toUInt32
