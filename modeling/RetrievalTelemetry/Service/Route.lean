/-
The paths that the service knows.

A target is read as an address.  What it says of a host is not looked at: only its path counts,
in which escapes stand for characters, and its query is handed on.  A path with slashes at its end
is not known, but if it is without them, the client is sent there.
-/
import RetrievalTelemetry.Text.Replacing
import RetrievalTelemetry.WebAddress.Basic

namespace RetrievalTelemetry

/-- The paths of the service. -/
inductive Route where
  | events
  | records
  | ready
  | health
  | metrics
deriving DecidableEq, Repr

namespace Route

/-- All paths. -/
def all : List Route := [events, records, ready, health, metrics]

def path : Route → String
  | events => "/v1/retrieval-events"
  | records => "/v2/retrieval-events"
  | ready => "/ready"
  | health => "/health"
  | metrics => "/metrics"

/-- The methods that a path knows; whoever may get may also ask for the head. -/
def methods : Route → List String
  | events => ["POST"]
  | records => ["POST"]
  | ready => ["GET", "HEAD"]
  | health => ["GET", "HEAD"]
  | metrics => ["GET", "HEAD"]

def ofPath? (path : String) : Option Route := all.find? fun r => r.path == path

/-- The path and the query of a target, with its question mark; none if it is no address. -/
def splitTarget (target : String) : Option (String × String) :=
  (WebAddress.ofText? target).map fun a =>
    let a := if a.isComplete then a else a.pathOnly
    (Text.percentDecoded (WebAddress.straightPath a.path.toList), (a.query.map ("?" ++ ·)).getD "")

/-- What a target leads to. -/
inductive Destination where
  | route (r : Route)
  /-- Not here, but at another target. -/
  | elsewhere (target : String)
  | nowhere
deriving DecidableEq, Repr

/-- What a target leads to. -/
def destination (target : String) : Destination :=
  match splitTarget target with
  | none => .nowhere
  | some (path, query) =>
    match ofPath? path with
    | some r => .route r
    | none =>
      match ofPath? (Text.dropTrailing '/' path) with
      | some r => .elsewhere (r.path ++ query)
      | none => .nowhere

end Route

end RetrievalTelemetry
