/-
What the service answers.

A response has a status and contents of one of a few kinds; the kind decides the media type.
The answer to a request that asks for the head only has the type of the full answer and none
of its contents.
-/
import RetrievalTelemetry.Json.Printer

namespace RetrievalTelemetry

/-- The contents of a response. -/
inductive Content where
  | empty
  | plain (text : String)
  | json (value : Json)
  /-- Lines for scraping. -/
  | exposition (lines : List String)

def Content.mediaType : Content → Option String
  | empty => none
  | plain _ => some "text/plain; charset=utf-8"
  | json _ => some "application/json"
  | exposition _ => some "text/plain; version=0.0.4; charset=utf-8"

def Content.render : Content → String
  | empty => ""
  | plain text => text
  | json value => value.render .compact
  | exposition lines => String.join (lines.map (· ++ "\n"))

/-- A response. -/
structure Response where
  status : Nat
  content : Content := .empty
  /-- The methods that the path knows, if the request used another one. -/
  allowed : Option (List String) := none
  /-- Where to ask instead. -/
  location : Option String := none
  /-- Whether the contents are left out. -/
  headOnly : Bool := false

namespace Response

def mediaType (r : Response) : Option String := r.content.mediaType

/-- The text that is sent. -/
def body (r : Response) : String := if r.headOnly then "" else r.content.render

/-- Done, and nothing to say. -/
def done : Response := { status := 200 }

def plain (status : Nat) (text : String) : Response := { status := status, content := .plain text }

/-- No such path. -/
def notFound : Response := plain 404 "Not Found"

/-- No such method. -/
def notAllowed (allowed : List String) : Response :=
  { plain 405 "Method Not Allowed" with allowed := some allowed }

/-- The batch could not be stored. -/
def storageFailed : Response := { status := 500 }

/-- Something else went wrong. -/
def failed : Response := plain 500 "Internal Server Error"

/-- Another path is meant. -/
def redirect (location : String) : Response := { status := 307, location := some location }

end Response

end RetrievalTelemetry
