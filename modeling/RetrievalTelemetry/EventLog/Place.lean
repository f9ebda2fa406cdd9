/-
Where a log is kept, as its URL says.

Only one kind of log needs no driver: it is kept in a file, or in memory if there is no path.  A
few options say how the file is opened; the others belong to the URI of the file, if its name is
to be taken for one.

A log in memory may be private to whoever opened it.  Others then have a log without tables before
them.
-/
import RetrievalTelemetry.EventLog.FileUri
import RetrievalTelemetry.EventLog.Store
import RetrievalTelemetry.EventLog.Url
import RetrievalTelemetry.FilePath

namespace RetrievalTelemetry

/-- Where a log is kept. -/
inductive LogPlace where
  | memory (shared : Bool)
  | file (path : String) (access : FileAccess)
  /-- A file that cannot be opened as asked for. -/
  | unusable
deriving DecidableEq, Repr

namespace LogPlace

/-- The drivers of logs in files. -/
def fileDrivers : List String := ["base", "pysqlite"]

/-- The kinds of logs with drivers that are not there. -/
def absentDrivers : List (String × List String) :=
  [("sqlite", ["aiosqlite", "pysqlcipher"]),
   ("postgresql",
    ["base", "psycopg", "psycopg_async", "psycopg2", "psycopg2cffi", "asyncpg", "pg8000"]),
   ("mysql", mysqlDrivers), ("mariadb", mysqlDrivers),
   ("oracle", ["base", "cx_oracle", "oracledb", "oracledb_async"]),
   ("mssql", ["base", "pyodbc", "pymssql", "aioodbc"])]
where
  /-- The drivers of two kinds that are much alike. -/
  mysqlDrivers : List String :=
    ["base", "mysqldb", "pymysql", "mysqlconnector", "mariadbconnector", "cymysql", "pyodbc", "aiomysql",
     "asyncmy"]

/-- Checks that a kind is one of logs in files. -/
def checkKind (kind driver : String) : Except LogPlaceError Unit :=
  if kind = "sqlite" && fileDrivers.contains driver then .ok ()
  else if ((absentDrivers.lookup kind).getD []).contains driver then .error .noDriver
  else .error .unknownKind

/-! ### Options -/

/-- The words that switch something on. -/
def onWords : List String := ["true", "yes", "on", "y", "t", "1"]

/-- The words that switch something off. -/
def offWords : List String := ["false", "no", "off", "n", "f", "0"]

/-- A switch; several values count as on. -/
def switch (values : List String) : Except LogPlaceError Bool :=
  match values with
  | [] => .ok false
  | [value] =>
    let word := String.ofList (Text.inSmallLetters (Text.trim Text.isBlank value.toList))
    if onWords.contains word then .ok true
    else if offWords.contains word then .ok false
    else .error (.badSwitch word)
  | _ => .ok true

/-- Checks an option that is a number, with or without a fraction, and gives it if it is whole. -/
def number (whole : Bool) (values : List String) : Except LogPlaceError Int :=
  match values with
  | [] => .ok 0
  | [value] =>
    if whole then (Text.integer value).mapError .badNumber
    else ((Text.double value).map fun _ => 0).mapError .badNumber
  | _ => .error .repeatedOption

/-- The options that are not part of the name of a file. -/
def ownOptions : List String :=
  ["uri", "timeout", "isolation_level", "detect_types", "check_same_thread", "cached_statements"]

/-- Whether a number fits into 32 bits with a sign. -/
def isShort (n : Int) : Bool := -0x80000000 ≤ n && n < 0x80000000

/-- The checks that come when the log is opened: numbers that fit, and one way to keep transactions
apart. -/
def checkOpening (u : LogUrl) (numbers : List Int) : Except LogPlaceError Unit :=
  if !numbers.all isShort then .error .tooLarge
  else if 1 < ((u.options.lookup "isolation_level").getD []).length then .error .badIsolation
  else .ok ()

/-- Several values as they are shown. -/
def valuesText : List String → String
  | [value] => value
  | values => "(" ++ String.intercalate ", " (values.map Text.quoted) ++ ")"

/-- The name of a file, with options that belong to it in the order of their names. -/
def fileName (path : String) (options : List (String × List String)) : String :=
  if options.isEmpty then path
  else
    let ordered := options.mergeSort fun a b => a.1 ≤ b.1
    path ++ "?" ++ String.intercalate "&" (ordered.map fun option => option.1 ++ "=" ++ valuesText option.2)

/-! ### Places -/

def memoryNames : List String := ["", ":memory:"]

/-- Whether every thread opens the log anew. -/
def isPrivate (u : LogUrl) : Bool :=
  memoryNames.contains (u.path.getD "") || u.options.lookup "mode" = some ["memory"]

/-- The place of a file that is opened by a URI. -/
def ofName (isPrivate : Bool) (name : String) : LogPlace :=
  match FileUri.ofName? name with
  | none => .unusable
  | some f =>
    if f.inMemory || memoryNames.contains f.path then .memory (f.shared || !isPrivate)
    else .file (FilePath.plain f.path) f.access

/-- The place of a log in a file. -/
def ofFileUrl (u : LogUrl) : Except LogPlaceError LogPlace := do
  if u.namesServer then .error .malformed
  let values (name : String) := (u.options.lookup name).getD []
  let isUri ← switch (values "uri")
  let _ ← number false (values "timeout")
  let types ← number true (values "detect_types")
  let _ ← switch (values "check_same_thread")
  let statements ← number true (values "cached_statements")
  let others := u.options.filter fun option => !(ownOptions ++ ["plugins"]).contains option.1
  if isUri && u.path.isNone && !others.isEmpty then .error .noPath
  checkOpening u [types, statements]
  let path := u.path.getD ""
  let name := if isUri then fileName path others else path
  if name.toList.contains '\x00' then .error .nullCharacter
  if isUri && u.path.isNone then .error .noPath
  .ok
    (if isUri then ofName (isPrivate u) name
     else if memoryNames.contains name then .memory false
     else .file (FilePath.plain name) .full)

/-- The place that a URL denotes. -/
def ofUrl (url : String) : Except LogPlaceError LogPlace := do
  let u ← LogUrl.ofText url
  if (u.options.lookup "plugin").isSome then .error .unknownKind
  match u.kind with
  | [kind] => checkKind kind "base"
  | [kind, driver] => checkKind kind driver
  | _ => .error .overqualifiedKind
  ofFileUrl u

/-- Whether everybody who works on the log can write to it. -/
def isShared : LogPlace → Bool
  | .memory shared => shared
  | .file _ access => access != .readOnly
  | .unusable => false

end LogPlace

end RetrievalTelemetry
