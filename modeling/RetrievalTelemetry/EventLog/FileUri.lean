/-
Files by URI: a path, and how the file is to be opened.

A name that begins with `file:` is a URI.  Escapes in it are decoded, and some of its options are
orders; one that is not understood makes the file unusable.  Any other name is a path.
-/
import RetrievalTelemetry.Text.FormEncoded

namespace RetrievalTelemetry

/-- What may be done with a file. -/
inductive FileAccess where
  /-- It is made if there is none. -/
  | full
  /-- It has to be there. -/
  | existing
  /-- It has to be there, and stays as it is. -/
  | readOnly
deriving DecidableEq, Repr

/-- A file, and how it is opened. -/
structure FileUri where
  path : String
  access : FileAccess := .full
  /-- Whether only memory is wanted under this name. -/
  inMemory : Bool := false
  /-- Whether all who name it have the same contents before them. -/
  shared : Bool := false
deriving DecidableEq, Repr

namespace FileUri

/-- A part of a URI, which ends at an escaped null character. -/
def decoded (part : List Char) : String := Text.percentDecoded (beforeNull part)
where
  /-- What stands in front of an escaped null character. -/
  beforeNull : List Char → List Char
    | '%' :: '0' :: '0' :: _ => []
    | c :: rest => c :: beforeNull rest
    | [] => []

def options (query : List Char) : List (String × String) :=
  ((Text.splitBy (· = '&') query).map fun field =>
    let name := field.takeWhile (· ≠ '=')
    (decoded name, decoded ((field.drop name.length).drop 1))).filter fun option => !option.1.isEmpty

/-- The systems that files can be kept by. -/
def fileSystems : List String := ["unix", "unix-none", "unix-dotfile", "unix-excl"]

/-- Whether an option is switched on, by a word or a number. -/
def isOn (value : String) : Bool :=
  ["on", "yes", "true"].contains value.toLower || value.toList.head?.any fun c => '1' ≤ c && c ≤ '9'

/-- Follows one order; none if it is not understood. -/
def order (f : FileUri) (name value : String) : Option FileUri :=
  match name with
  | "mode" =>
    match value with
    | "ro" => some { f with access := .readOnly, inMemory := false }
    | "rw" => some { f with access := .existing, inMemory := false }
    | "rwc" => some { f with access := .full, inMemory := false }
    | "memory" => some { f with access := .full, inMemory := true }
    | _ => none
  | "cache" =>
    if value = "shared" then some { f with shared := true }
    else if value = "private" then some { f with shared := false }
    else none
  | "vfs" => if fileSystems.contains value then some f else none
  | _ => some f

/-- A file that may not change is only read. -/
def settle (f : FileUri) (options : List (String × String)) : FileUri :=
  if (options.lookup "immutable").any isOn then { f with access := .readOnly } else f

/-- The path of a URI behind its host, which is this one. -/
def pathOf? : List Char → Option (List Char)
  | '/' :: '/' :: rest =>
    let host := String.ofList (rest.takeWhile (· ≠ '/'))
    if host = "" || host = "localhost" then some (rest.drop host.length) else none
  | cs => some cs

/-- The file that a name denotes; none if it cannot be opened as the name asks. -/
def ofName? (name : String) : Option FileUri :=
  match name.toList with
  | 'f' :: 'i' :: 'l' :: 'e' :: ':' :: rest => do
    let cs := (← pathOf? rest).takeWhile (· ≠ '#')
    let path := cs.takeWhile (· ≠ '?')
    let options := options ((cs.drop path.length).drop 1)
    let file ← options.foldlM (fun (f : FileUri) option => f.order option.1 option.2)
      ({ path := decoded path } : FileUri)
    some (file.settle options)
  | _ => some { path := name }

end FileUri

end RetrievalTelemetry
