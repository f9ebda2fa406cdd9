/-
The fields of posted items.
-/
import RetrievalTelemetry.Check.Scalar
import RetrievalTelemetry.Time.DurationText
import RetrievalTelemetry.Time.TimestampText
import RetrievalTelemetry.Uuid

namespace RetrievalTelemetry.Intake

def text : JsonCheck String := fun json => json.scalar.asText

/-- A whole number that is not negative. -/
def count : JsonCheck Int := fun json => json.scalar.asIntegerFrom 0

def truth : JsonCheck Bool := fun json => json.scalar.asBoolean

/-- An identifier. -/
def uuid : JsonCheck Uuid
  | .string s =>
    match Uuid.ofText? s with
    | some u => .valid u
    | none => .refuse .notUuid
  | _ => .refuse .notUuidText

/-- The cause that a timestamp error is. -/
def timestampCause : TimestampError → Cause
  | .malformed => .notTimestamp
  | .noOffset => .withoutOffset

/-- A timestamp with an offset, as text or as a number. -/
def timestamp (json : Json) : Checked Timestamp :=
  let result : Except TimestampError Timestamp := match json with
    | .string s => Timestamp.ofText s
    | .number n => Timestamp.ofNumber n
    | _ => .error .malformed
  match result with
  | .ok t => .valid t
  | .error e => .refuse (timestampCause e)

/-- The duration that a number of nanoseconds denotes. -/
def durationOfNumber (n : Number) : Except DurationError Duration :=
  let whole := match n with
    | .int _ => true
    | .double x => x.isWhole
  match n, whole with
  | .double x, false => .error (.notWhole x)
  | n, _ =>
    match Duration.ofNanoseconds? n with
    | some d => .ok d
    | none => .error (.numberOutOfRange n)

/-- A duration, as text or as a whole number of nanoseconds. -/
def duration (json : Json) : Checked Duration :=
  let result : Option (Except DurationError Duration) := match json with
    | .string s => some (Duration.ofText s)
    | .number n => some (durationOfNumber n)
    | .bool _ => some (.error .truthValue)
    | _ => none
  match result with
  | none => .refuse .notDuration
  | some (.ok d) => .valid d
  | some (.error e) => .refuse (.badDuration e)

/-- The items of a posted batch, whose body is an object with a list of events. -/
def batch {α : Type} (item : JsonCheck α) (body : Option Json) : Except (List Problem) (List α) :=
  match body with
  | none => .error [{ cause := .notJson }]
  | some json =>
    match JsonCheck.object (JsonCheck.required "events" (JsonCheck.array item)) json with
    | .valid items => .ok items
    | .invalid problems => .error problems

end RetrievalTelemetry.Intake
