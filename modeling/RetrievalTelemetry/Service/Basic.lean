/-
The service: requests in, responses out.

A posted batch has to be declared as JSON and is checked as a whole before anything else
happens.  A batch that cannot be stored is answered with an empty failure, so the client
keeps it; any other failure comes after the batch was stored.
-/
import RetrievalTelemetry.Intake.EventBatch
import RetrievalTelemetry.Intake.RecordBatch
import RetrievalTelemetry.Metric.Exposition
import RetrievalTelemetry.Recorder
import RetrievalTelemetry.Service.Response
import RetrievalTelemetry.Service.Route

namespace RetrievalTelemetry

/-- A request. -/
structure Request where
  method : String
  /-- Path and query. -/
  target : String
  /-- The declared type of the body. -/
  contentType : Option String := none
  body : ByteArray := ByteArray.empty

/-- The service. -/
structure Service where
  recorder : Recorder
  /-- Whether the meter may be scraped. -/
  exposesMetrics : Bool := false
  /-- Whether requests have the log of the recorder before them.  If not, they have one without tables. -/
  sharesLog : Bool := true

/-- How the log takes batches. -/
structure Storage where
  events : EventLog → List Event → Except LogError (Nat × EventLog)
  records : EventLog → List Record → Except LogError (Nat × EventLog)

/-- Each batch in one go. -/
def Storage.inOneGo : Storage where
  events := EventLog.insertEvents
  records := EventLog.insertRecords

/-- What comes of a request. -/
structure Exchange where
  service : Service
  response : Response
  updates : List Update := []

namespace Service

/-- Answers without doing anything. -/
def reply (s : Service) (response : Response) : Exchange := { service := s, response := response }

/-- Whether a declared type is taken for JSON. -/
def isJsonType (contentType : Option String) : Bool :=
  Text.beginsWith (contentType.getD "") "application/json"

/-- The answer to a body of another type. -/
def wrongType : Response :=
  .plain 400 "Not an acceptable content type. Content type must be application/json."

/-- The answer to a recorded batch. -/
def recordedResponse : Option RecorderError → Response
  | none => .done
  | some (.storage (.failed _)) => .storageFailed
  | some _ => .failed

/-- The recorder that requests have before them. -/
def recorderForRequests (s : Service) : Recorder :=
  if s.sharesLog then s.recorder
  else { s.recorder with log := s.recorder.log.map EventLog.withoutTables }

/-- What a request recorded, with the log of the recorder again. -/
def restore (s : Service) (step : Recorded) : Recorded :=
  if s.sharesLog then step else { step with recorder := { step.recorder with log := s.recorder.log } }

/-- Takes over what was recorded. -/
def adopt (s : Service) (step : Recorded) : Exchange :=
  { service := { s with recorder := step.recorder }
    response := recordedResponse step.error
    updates := step.updates }

/-- Retires the retrievals whose time is up. -/
def expire (s : Service) (now : Binary64) : Service :=
  (s.adopt (s.recorder.adopt (s.recorder.correlator.expire now))).service

/-- Takes a batch: checks its type and its items, and records it. -/
def take {α : Type} (s : Service) (request : Request)
    (read : ByteArray → Except (List Problem) (List α)) (record : List α → Recorded) : Exchange :=
  if isJsonType request.contentType then
    match read request.body with
    | .error problems => s.reply (.plain 400 (Problem.text problems))
    | .ok items => s.adopt (s.restore (record items))
  else s.reply wrongType

/-- The lines of the meter, if it may be scraped. -/
def metrics (s : Service) : Response :=
  if s.exposesMetrics then
    match Exposition.lines (s.recorder.correlator.meter.getD {}) with
    | .ok lines => { status := 200, content := .exposition lines }
    | .error _ => .failed
  else .plain 404 "Prometheus exposition is disabled"

/-- How the service feels. -/
def health (s : Service) : Json :=
  .object
    [("status", .string "healthy"),
     ("in_flight_retrievals", .number (.int s.recorder.inFlight)),
     ("persistence", .bool s.recorder.isPersistent)]

/-- The answer of a route to one of its methods. -/
def serveWith (storage : Storage) (s : Service) (now : Binary64) (request : Request) :
    Route → Exchange
  | .events =>
    s.take request Intake.events
      (s.recorderForRequests.recordBatch storage.events fun c items => c.events now items)
  | .records =>
    s.take request Intake.records
      (s.recorderForRequests.recordBatch storage.records Correlator.records)
  | .ready => s.reply .done
  | .health => s.reply { status := 200, content := .json s.health }
  | .metrics => s.reply s.metrics

/-- The answer to a request, whose batch the log takes in this way. -/
def handleWith (storage : Storage) (s : Service) (now : Binary64) (request : Request) : Exchange :=
  let exchange := match Route.destination request.target with
    | .nowhere => s.reply .notFound
    | .elsewhere target => s.reply (.redirect target)
    | .route route =>
      if route.methods.contains request.method then s.serveWith storage now request route
      else s.reply (.notAllowed route.methods)
  { exchange with response := { exchange.response with headOnly := request.method = "HEAD" } }

/-- The answer to a request. -/
def handle (s : Service) (now : Binary64) (request : Request) : Exchange :=
  s.handleWith .inOneGo now request

/-- The answer to a client that goes where it is sent. -/
def handleFollowing (s : Service) (now : Binary64) (request : Request) : Exchange :=
  let first := s.handle now request
  match first.response.location with
  | none => first
  | some target => first.service.handle now { request with target := target }

end Service

end RetrievalTelemetry
