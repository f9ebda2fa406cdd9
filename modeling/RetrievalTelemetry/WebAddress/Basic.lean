/-
Addresses of resources on the web.

An address is split at the marks that end its parts, and each part is brought into its normal
form: scheme and host in small letters, the port left out where it is the usual one, the steps
`.` and `..` carried out, and percent signs for characters that may not stand in a part.

An address without scheme or host is only a path on a host that is yet to be named.
-/
import RetrievalTelemetry.Text.Numeral
import RetrievalTelemetry.WebAddress.Host

namespace RetrievalTelemetry

/-- An address in its normal form. -/
structure WebAddress where
  scheme : String
  userInfo : String
  host : String
  port : Option Int
  path : String
  query : Option String
  fragment : Option String
deriving DecidableEq, Repr

namespace WebAddress

/-! ### The marks of the parts -/

/-- Whether `c` can be shown and is ASCII. -/
def isPlain (c : Char) : Bool := ' ' < c && c ≤ '~'

/-- Whether `c` stands for itself in a query. -/
def isQueryMark (c : Char) : Bool :=
  isPlain c && !(['\x22', '#', '<', '>'].contains c)

/-- Whether `c` stands for itself in a path. -/
def isPathMark (c : Char) : Bool :=
  isQueryMark c && !(['?', '\x60', '\x7b', '\x7d'].contains c)

/-- Whether `c` stands for itself in what names a user. -/
def isUserMark (c : Char) : Bool :=
  isPathMark c && !(['/', ';', '=', '@', '[', '\\', ']', '^', '|'].contains c)

/-- Whether `c` stands for itself in a fragment. -/
def isFragmentMark (c : Char) : Bool :=
  isPlain c && !(['\x22', '<', '>', '\x60'].contains c)

/-- A part with escapes where they are needed. -/
def escaped (keeps : Char → Bool) (cs : List Char) : String :=
  String.ofList (Text.percentEncoded keeps cs)

/-! ### Parts -/

/-- Whether a text can be a scheme; it may be empty. -/
def isScheme (cs : List Char) : Bool :=
  cs.head?.all Char.isAlpha && cs.all fun c => c.isAlphanum || c = '+' || c = '.' || c = '-'

/-- The scheme and the rest. -/
def splitScheme (cs : List Char) : List Char × List Char :=
  let name := cs.takeWhile (· ≠ ':')
  if cs.contains ':' && isScheme name then (name, cs.drop (name.length + 1)) else ([], cs)

/-- What stands behind two slashes, up to the path, and the rest. -/
def splitAuthority : List Char → List Char × List Char
  | '/' :: '/' :: rest =>
    let goesOn (c : Char) : Bool := c ≠ '/' && c ≠ '?' && c ≠ '#'
    (rest.takeWhile goesOn, rest.dropWhile goesOn)
  | cs => ([], cs)

/-- What stands in front of the last `c`, if there is one, and the rest. -/
def splitLast (c : Char) (cs : List Char) : Option (List Char) × List Char :=
  let behind := (cs.reverse.takeWhile (· ≠ c)).reverse
  if cs.contains c then (some (cs.take (cs.length - behind.length - 1)), behind) else (none, cs)

/-- Host and port; the brackets of an IPv6 address belong to the host. -/
def splitPort (cs : List Char) : List Char × List Char :=
  let host := match cs.head?, splitLast ']' cs with
    | some '[', (some inner, _) => inner ++ [']']
    | _, _ => cs.takeWhile (· ≠ ':')
  match cs.drop host.length with
  | ':' :: port => (host, port)
  | port => (host, port)

def usualPort? (scheme : String) : Option Int :=
  [("ftp", 21), ("http", 80), ("https", 443), ("ws", 80), ("wss", 443)].lookup scheme

/-- The port that a text is, none if it is the usual one; nothing if it is no number. -/
def port? (scheme : String) (text : List Char) : Option (Option Int) :=
  if text.isEmpty then some none
  else (Text.integer (String.ofList text)).toOption.map fun n => if usualPort? scheme = some n then none else some n

/-- Carries out a step of a path; the first step is never taken back. -/
def takeStep (done : List (List Char)) (step : List Char) : List (List Char) :=
  if step = ['.'] then done
  else if step = ['.', '.'] then (if done.isEmpty || done = [[]] then done else done.dropLast)
  else done ++ [step]

/-- A path without steps that stay or go back. -/
def straightPath (path : List Char) : List Char :=
  List.intercalate ['/'] ((Text.splitBy (· = '/') path).foldl takeStep [])

/-- Whether a path can stand behind what is there of scheme and host. -/
def isPathFor (hasScheme hasAuthority : Bool) (path : List Char) : Bool :=
  if hasAuthority then path.isEmpty || path.head? = some '/'
  else hasScheme || !(path.take 2 = ['/', '/'] || path.head? = some ':')

/-! ### Addresses -/

/-- The most characters that an address may have, and each of its parts once they are escaped. -/
def maxLength : Nat := 65536

/-- Whether `c` is a control character of ASCII. -/
def isControl (c : Char) : Bool := c.toNat < 0x20 || c.toNat = 0x7F

/-- The address that a text is; none if it is malformed. -/
def ofText? (text : String) : Option WebAddress := do
  let cs := text.toList
  if maxLength < cs.length || cs.any isControl then none
  else
    let (scheme, rest) := splitScheme cs
    let (authority, rest) := splitAuthority rest
    let path := rest.takeWhile fun c => c ≠ '?' && c ≠ '#'
    let (query, fragment) := match rest.drop path.length with
      | '?' :: rest =>
        (some (rest.takeWhile (· ≠ '#')), if rest.contains '#' then some ((rest.dropWhile (· ≠ '#')).drop 1) else none)
      | '#' :: rest => (none, some rest)
      | _ => (none, none)
    let (user, place) := splitLast '@' authority
    let (host, port) := splitPort place
    let scheme := String.ofList (scheme.map Char.toLower)
    let userInfo := escaped isUserMark (user.getD [])
    let host ← normalHost? host
    let port ← port? scheme port
    let hasAuthority := userInfo ≠ "" || !host.isEmpty || port.isSome
    if isPathFor (scheme ≠ "") hasAuthority path then
      let path := if scheme ≠ "" || hasAuthority then straightPath path else path
      some
        { scheme := scheme
          userInfo := userInfo
          host := String.ofList host
          port := port
          path := escaped isPathMark path
          query := query.map (escaped isQueryMark)
          fragment := fragment.map (escaped isFragmentMark) }
    else none

/-- Whether the address says where to connect and how. -/
def isComplete (a : WebAddress) : Bool := a.scheme ≠ "" && a.host ≠ ""

/-- The path alone, with one slash in front. -/
def pathOnly (a : WebAddress) : WebAddress :=
  { scheme := "", userInfo := "", host := "", port := none
    path := "/" ++ String.ofList (a.path.toList.dropWhile (· = '/'))
    query := a.query, fragment := none }

/-- User, host and port. -/
def authority (a : WebAddress) : String :=
  let user := if a.userInfo = "" then "" else a.userInfo ++ "@"
  let host := if a.host.toList.contains ':' then "[" ++ a.host ++ "]" else a.host
  let port := match a.port with
    | none => ""
    | some n => ":" ++ toString n
  user ++ host ++ port

/-- Whether no part is longer than an address may be. -/
def fits (a : WebAddress) : Bool :=
  [a.scheme, a.authority, a.path, a.query.getD "", a.fragment.getD ""].all fun part =>
    part.length ≤ maxLength

/-- The address with another query; none if a part is too long. -/
def withQuery? (a : WebAddress) (query : String) : Option WebAddress :=
  let a := { a with query := some query }
  if a.fits then some a else none

def render (a : WebAddress) : String :=
  (if a.scheme = "" then "" else a.scheme ++ ":") ++
    (if a.authority = "" then "" else "//" ++ a.authority) ++
    a.path ++ (a.query.map ("?" ++ ·)).getD "" ++ (a.fragment.map ("#" ++ ·)).getD ""

end WebAddress

end RetrievalTelemetry
