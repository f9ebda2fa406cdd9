/-
The two tags of an event: the phase of its retrieval, and what happened.
-/
import RetrievalTelemetry.Vocabulary

namespace RetrievalTelemetry

/-- The stages of a retrieval. -/
inductive Phase where
  | indexer
  | query
  | retrieval
deriving DecidableEq, Repr, Inhabited

namespace Phase

/-- All phases, in the order in which they are listed to a client. -/
def all : List Phase := [indexer, query, retrieval]

/-- The name of a phase in batches and in the event log. -/
def name : Phase → String
  | indexer => "indexer"
  | query => "query"
  | retrieval => "retrieval"

def ofName : String → Except UnknownName Phase := findNamed "Phase" all name

end Phase

/-- The kinds of events. -/
inductive EventCode where
  | accepted
  | candidatesFiltered
  | candidatesFound
  | connected
  | failure
  | firstByte
  | proposed
  | queryAsked
  | queryAskedFiltered
  | started
  | success
deriving DecidableEq, Repr, Inhabited

namespace EventCode

/-- All codes, in the order in which they are listed to a client. -/
def all : List EventCode :=
  [accepted, candidatesFiltered, candidatesFound, connected, failure, firstByte, proposed, queryAsked,
   queryAskedFiltered, started, success]

/-- The name of a code in batches and in the event log. -/
def name : EventCode → String
  | accepted => "accepted"
  | candidatesFiltered => "candidates-filtered"
  | candidatesFound => "candidates-found"
  | connected => "connected"
  | failure => "failure"
  | firstByte => "first-byte-received"
  | proposed => "proposed"
  | queryAsked => "query-asked"
  | queryAskedFiltered => "query-asked-filtered"
  | started => "started"
  | success => "success"

def ofName : String → Except UnknownName EventCode := findNamed "EventCode" all name

end EventCode

end RetrievalTelemetry
