/-
Paths of files, as they are named in messages.

Doubled slashes and steps to the same directory are left out; a path of nothing else is the
current directory.  Two slashes in front, but not three, are kept, because such paths may have
a meaning of their own.
-/
import RetrievalTelemetry.Text.Search

namespace RetrievalTelemetry.FilePath

/-- The slashes that a path begins with, as far as they matter. -/
def root (path : List Char) : String :=
  match path with
  | '/' :: '/' :: '/' :: _ => "/"
  | '/' :: '/' :: _ => "//"
  | '/' :: _ => "/"
  | _ => ""

/-- The steps of a path that lead somewhere. -/
def steps (path : List Char) : List String :=
  ((Text.splitBy (· = '/') path).map String.ofList).filter fun step => step ≠ "" && step ≠ "."

/-- The path without needless parts. -/
def tidy (path : String) : String :=
  let short := root path.toList ++ String.intercalate "/" (steps path.toList)
  if short.isEmpty then "." else short

/-- Takes one more step; the steps before it stand in reverse.  A step up undoes the one before it, and
from the root there is no way up. -/
def follow (isAbsolute : Bool) (before : List String) (step : String) : List String :=
  if step = ".." then
    match before with
    | [] => if isAbsolute then [] else [step]
    | last :: rest => if last = ".." then step :: last :: rest else rest
  else step :: before

/-- The path without needless parts and without steps up behind other steps, whatever stands there. -/
def plain (path : String) : String :=
  let cs := path.toList
  let isAbsolute := cs.head? = some '/'
  let left := ((steps cs).foldl (follow isAbsolute) []).reverse
  let short := (if isAbsolute then "/" else "") ++ String.intercalate "/" left
  if short.isEmpty then "." else short

/-- The greatest number of bytes in the name of a file. -/
def longestStep : Nat := 255

/-- The number of bytes from which a path is too long. -/
def pathLimit : Nat := 4096

/-- Whether a path is too long for any file. -/
def isTooLong (path : String) : Bool :=
  pathLimit ≤ path.utf8ByteSize || (steps path.toList).any fun step => longestStep < step.utf8ByteSize

end RetrievalTelemetry.FilePath
