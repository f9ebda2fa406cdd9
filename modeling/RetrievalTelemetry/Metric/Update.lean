/-
Updates: what is told to the instruments.

Whatever correlates retrievals only ever says two things: a counter grew, or a histogram
has one more sample.  Updates are values, so the order in which they were made can be
stated and compared.
-/
import RetrievalTelemetry.Metric.Instrument
import RetrievalTelemetry.Provider.Transport

namespace RetrievalTelemetry

/-- The attributes of an update, by name. -/
abbrev Attributes := List (String × String)

/-- One call to an instrument. -/
inductive Update where
  | add (counter : Counter) (delta : Int) (attributes : Attributes)
  | record (histogram : Histogram) (value : Number) (attributes : Attributes)
deriving DecidableEq, Repr

namespace Update

/-- A counter grows by one. -/
def count (counter : Counter) (attributes : Attributes := []) : Update := add counter 1 attributes

/-- A sample of a span of time, in seconds. -/
def seconds (histogram : Histogram) (span : Binary64) (attributes : Attributes := []) : Update :=
  record histogram (.double span) attributes

/-- A sample of a whole number. -/
def whole (histogram : Histogram) (value : Int) (attributes : Attributes := []) : Update :=
  record histogram (.int value) attributes

def attributes : Update → Attributes
  | add _ _ attributes => attributes
  | record _ _ attributes => attributes

/-- The attribute that names a transport. -/
def protocol (label : String) : Attributes := [("protocol", label)]

/-- The attribute that names a provider. -/
def provider (id : String) : Attributes := [("sp_id", id)]

end Update

end RetrievalTelemetry
