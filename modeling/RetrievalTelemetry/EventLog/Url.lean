/-
URLs of logs, taken apart.

Behind the kind of the log and two slashes may stand a user, with a password, in front of an at sign;
a host; a port; a path behind a third slash; and options behind a question mark.  Everything but the
kind may be left out, and what does not fit behind the last part is passed over.
-/
import RetrievalTelemetry.Text.FormEncoded
import RetrievalTelemetry.Text.Numeral
import RetrievalTelemetry.Text.LetterCase
import RetrievalTelemetry.WebAddress.HostLetter

namespace RetrievalTelemetry

/-- Why a URL is no place for a log. -/
inductive LogPlaceError where
  /-- It is no URL, or has parts that the place of such a log has not. -/
  | malformed
  /-- The kind is known, but there is no driver for it. -/
  | noDriver
  /-- There is no such kind, or no such addition to one. -/
  | unknownKind
  /-- The kind has more than two names. -/
  | overqualifiedKind
  | badNumber (error : Text.NumeralError)
  | badSwitch (text : String)
  | badIsolation
  /-- An option with a single value is given twice. -/
  | repeatedOption
  /-- A number does not fit into 32 bits. -/
  | tooLarge
  | nullCharacter
  /-- The file has no name at all. -/
  | noPath
deriving DecidableEq, Repr

def LogPlaceError.message : LogPlaceError → String
  | overqualifiedKind => "too many values to unpack (expected 2)"
  | badNumber error => error.message
  | badSwitch text => "String is not true/false: " ++ Text.quoted text
  | badIsolation => "isolation_level string must be '', 'DEFERRED', 'IMMEDIATE', or 'EXCLUSIVE'"
  | nullCharacter => "embedded null byte"
  | malformed | noDriver | unknownKind | repeatedOption | tooLarge | noPath => ""

/-- The parts of the URL of a log. -/
structure LogUrl where
  /-- The names of the kind: what manages the log, and the driver for it. -/
  kind : List String
  user : String := ""
  password : String := ""
  host : String := ""
  port : Option Int := none
  path : Option String := none
  /-- The options with all their values. -/
  options : List (String × List String) := []
deriving DecidableEq, Repr

namespace LogUrl

/-- Whether `c` may stand in the name of a kind. -/
def isKindChar (c : Char) : Bool :=
  c.isAlphanum || c = '_' || c = '+' ||
    (0x80 ≤ c.toNat && WebAddress.isHostLetter (Text.smallLetter c))

/-- The user and password in front of an at sign, and the rest.  A password may hold anything but at
signs; a user holds neither a slash nor a colon. -/
def readUser (cs : List Char) : List Char × List Char × List Char :=
  let name := cs.takeWhile fun c => c ≠ ':' && c ≠ '/'
  let behind := cs.drop name.length
  let password := (behind.drop 1).takeWhile (· ≠ '@')
  if behind.head? = some ':' && (behind.drop 1).contains '@' then
    (name, password, behind.drop (password.length + 2))
  else if name.contains '@' then
    let user := ((name.reverse.dropWhile (· ≠ '@')).drop 1).reverse
    (user, [], cs.drop (user.length + 1))
  else ([], [], cs)

/-- A host, which may stand in brackets, and the rest. -/
def readHost (cs : List Char) : List Char × List Char :=
  let inside := (cs.drop 1).takeWhile fun c => c ≠ '/' && c ≠ '?'
  let bracketed := ((inside.reverse.dropWhile (· ≠ ']')).drop 1).reverse
  if cs.head? = some '[' && !bracketed.isEmpty then (bracketed, cs.drop (bracketed.length + 2))
  else
    let plain := cs.takeWhile fun c => c ≠ '/' && c ≠ ':' && c ≠ '?'
    (plain, cs.drop plain.length)

/-- A port behind a colon, and the rest. -/
def readPort : List Char → Except LogPlaceError (Option Int) × List Char
  | ':' :: rest =>
    let text := rest.takeWhile fun c => c ≠ '/' && c ≠ '?'
    (((Text.integer (String.ofList text)).map some).mapError .badNumber, rest.drop text.length)
  | cs => (.ok none, cs)

/-- A path behind a slash, and the rest. -/
def readPath : List Char → Option String × List Char
  | '/' :: rest =>
    let path := rest.takeWhile (· ≠ '?')
    (some (Text.percentDecoded path), rest.drop path.length)
  | cs => (none, cs)

/-- The options behind a question mark, up to the end of the line. -/
def readOptions : List Char → List (String × List String)
  | '?' :: rest =>
    (Text.queryFields (rest.takeWhile (· ≠ '\n'))).foldl (fun options field =>
      putField field.1 ((options.lookup field.1).getD [] ++ [field.2]) options) []
  | _ => []
where
  /-- Puts a value at a name: in place of an older one, or behind all others. -/
  putField (name : String) (values : List String) :
      List (String × List String) → List (String × List String)
    | [] => [(name, values)]
    | entry :: rest => if entry.1 == name then (name, values) :: rest else entry :: putField name values rest

/-- The parts of a URL. -/
def ofText (url : String) : Except LogPlaceError LogUrl :=
  let cs := url.toList
  let kind := cs.takeWhile isKindChar
  match kind.isEmpty, cs.drop kind.length with
  | false, ':' :: '/' :: '/' :: rest => do
    let (user, password, rest) := readUser rest
    let (host, rest) := readHost rest
    let (port, rest) := readPort rest
    let (path, rest) := readPath rest
    .ok
      { kind := (Text.splitBy (· = '+') kind).map String.ofList
        user := Text.percentDecoded user
        password := Text.percentDecoded password
        host := String.ofList host
        port := ← port
        path := path
        options := readOptions rest }
  | _, _ => .error .malformed

/-- Whether the URL names somebody, a host or a port. -/
def namesServer (u : LogUrl) : Bool :=
  !(u.user.isEmpty && u.password.isEmpty && u.host.isEmpty && (u.port.getD 0) == 0)

end LogUrl

end RetrievalTelemetry
