/-
Lines of the log.

A line is either a JSON object or set for a console: time, severity, message and logger in
columns, and then the fields by name.  A few fields are not shown as fields: values for the places
of the message, and traces, which on a console follow the line.
-/
import RetrievalTelemetry.Json.Printer
import RetrievalTelemetry.Logging.Severity
import RetrievalTelemetry.Logging.Template
import RetrievalTelemetry.Text.LineBreak

namespace RetrievalTelemetry

/-- Something to be logged. -/
structure LogEntry where
  logger : String
  severity : Severity
  message : String
  fields : List (String × Json) := []

/-- Why something cannot be logged. -/
inductive LogEntryError where
  | template (e : TemplateError)
  /-- A field has a name that something else needs. -/
  | reservedField
deriving DecidableEq, Repr

namespace LogEntry

/-- The name that a logger is shown by; the one without a name is the root. -/
def shownLogger (logger : String) : String := if logger.isEmpty then "root" else logger

/-- An entry whose message is a template with values. -/
def ofTemplate (logger : String) (severity : Severity) (template : String) (values : List Json) :
    Except TemplateError LogEntry :=
  (Template.fill template values).map fun message => ⟨shownLogger logger, severity, message, []⟩

/-- The names that a field cannot have. -/
def reservedNames : List String := ["self", "event", "method_name"]

/-- Whether a value counts as none: null, false, zero, and what is empty. -/
def isNothing : Json → Bool
  | .null => true
  | .bool b => !b
  | .number n => n.eq (.int 0)
  | .string s => s.isEmpty
  | .array items => items.isEmpty
  | .object fields => fields.isEmpty

/-- The message with the values of a field in its places: a list or a text is one value, and so is
the object in a list with nothing else. -/
def fillField (message : String) (value : Json) : Except TemplateError String :=
  if isNothing value then .ok message
  else
    match value with
    | .array [.object (field :: fields)] => Template.fillFrom message (.ofValue (.object (field :: fields)))
    | .object [_] => .error .missingKey
    | .bool _ | .number _ => .error .mismatch
    | other => Template.fillFrom message (.ofValue other)

def isKeptBack (field : String × Json) : Bool :=
  ["stack_info", "_record", "_from_structlog"].contains field.1 ||
    (field.1 == "positional_args" && field.2 != .null)

/-- An entry with fields, whose message may have places for the values of one of them. -/
def ofFields (logger : String) (severity : Severity) (message : String) (fields : List (String × Json)) :
    Except LogEntryError LogEntry := do
  let fields := settleFields fields
  if fields.any fun field => reservedNames.contains field.1 then .error .reservedField
  let message ← (fillField message ((fields.lookup "positional_args").getD .null)).mapError .template
  .ok ⟨shownLogger logger, severity, message, fields.filter fun field => !isKeptBack field⟩

/-- The entry as an object; the fields of the entry itself win over others of their names. -/
def toJson (e : LogEntry) (time : String) : Json :=
  .object (settleFields
    (e.fields.filter (·.1 != "exc_info") ++
      [("event", .string e.message), ("level", .string e.severity.name), ("logger", .string e.logger),
       ("timestamp", .string time)]))

/-- `text`, filled up with spaces to a width. -/
def column (width : Nat) (text : String) : String :=
  text ++ String.ofList (List.replicate (width - text.length) ' ')

/-- Whether a text could be misread if it stood without quotes. -/
def needsQuotes (text : String) : Bool :=
  text.toList.any fun c => [' ', '\t', '=', '\r', '\n', '\x22', '\x27'].contains c

/-- The value of a field on the console. -/
def fieldText : Json → String
  | .string s => if needsQuotes s then Text.quoted s else s
  | other => other.literal

/-- The fields that have a place of their own on the console. -/
def placedNames : List String :=
  ["event", "level", "logger", "timestamp", "logger_name", "stack", "exception", "exc_info"]

def toColumns (e : LogEntry) (time : String) : String :=
  let fields := (e.fields.filter fun f => !placedNames.contains f.1).mergeSort fun a b => a.1 ≤ b.1
  let second := (e.fields.lookup "logger_name").map fun value => "[" ++ value.display ++ "]"
  String.intercalate " "
    ([time, "[" ++ column 9 e.severity.name ++ "]", column 30 e.message, "[" ++ e.logger ++ "]"] ++
      second.toList ++ fields.map fun f => f.1 ++ "=" ++ fieldText f.2)

/-- A field that is a text for people, if there is one; none at all if it is something else. -/
def trace? (e : LogEntry) (name : String) : Option (Option String) :=
  match e.fields.lookup name with
  | none | some .null => some none
  | some (.string s) => some (some s)
  | some _ => none

/-- What follows a line on the console: the stack, and the failure behind a rule if there is one. -/
def traceText (stack failure : Option String) (hasFailure : Bool) : String :=
  let rule := if hasFailure || failure.isSome then "\n\n" ++ String.ofList (List.replicate 79 '=') ++ "\n" else ""
  (stack.elim "" fun text => "\n" ++ text ++ rule) ++ failure.elim "" ("\n" ++ ·)

/-- The entry as a console shows it; none if a trace is no text. -/
def toConsole? (e : LogEntry) (time : String) : Option String := do
  let stack ← e.trace? "stack"
  let failure ← e.trace? "exception"
  let hasFailure := !isNothing ((e.fields.lookup "exc_info").getD .null)
  some (e.toColumns time ++ traceText stack failure hasFailure)

/-- The lines that are printed for an entry; an entry that cannot be shown has none. -/
def lines (e : LogEntry) (s : LogSettings) (time : String) : List String :=
  if s.json then [(e.toJson time).render .compact]
  else ((e.toConsole? time).map fun text => Text.lines (text ++ "\n")).getD []

end LogEntry

end RetrievalTelemetry
