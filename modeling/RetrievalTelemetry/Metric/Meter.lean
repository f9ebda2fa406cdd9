/-
The meter: adds up what the instruments are told.

Each instrument has one series for each set of attributes; the order in which the attributes
are given does not matter.  A counter keeps its sum.  A histogram keeps the number of its
samples, their sum and extremes, and how many of them fell into each bucket; a sample on the
bound of a bucket belongs to that bucket.  Nothing ever shrinks: a negative delta and a
negative sample are not taken, and neither is a sample that is not finite.

A whole number has to be small enough for a double, or the meter fails.  A meter without a
name takes nothing at all.
-/
import RetrievalTelemetry.Json.Value
import RetrievalTelemetry.Metric.Update

namespace RetrievalTelemetry

/-- The samples of one series of a histogram. -/
structure Distribution where
  count : Nat
  sum : Number
  least : Number
  greatest : Number
  /-- The number of samples in each bucket; the last bucket has no bound. -/
  buckets : List Nat
deriving DecidableEq, Repr

namespace Distribution

/-- The number of bounds that a value is beyond. -/
def bucketOf (bounds : List Number) (value : Number) : Nat :=
  (bounds.takeWhile fun bound => bound.lt value).length

/-- No sample yet, for a number of bounds. -/
def empty (bounds : List Number) : Distribution where
  count := 0
  sum := .int 0
  least := .double (.infinity false)
  greatest := .double (.infinity true)
  buckets := List.replicate (bounds.length + 1) 0

/-- Takes a sample. -/
def add (d : Distribution) (bounds : List Number) (value : Number) : Except ArithmeticError Distribution :=
  (d.sum.add value).map fun sum =>
    { count := d.count + 1
      sum := sum
      least := if value.lt d.least then value else d.least
      greatest := if d.greatest.lt value then value else d.greatest
      buckets := d.buckets.modify (bucketOf bounds value) (· + 1) }

end Distribution

/-- The series of all instruments; an instrument has series only once it was told something. -/
structure Meter where
  /-- The name of the meter, under which its instruments are listed. -/
  name : String := "retrieval-recorder"
  sums : List ((Counter × Attributes) × Int) := []
  distributions : List ((Histogram × Attributes) × Distribution) := []

/-- Why there is no meter. -/
inductive MeterError where
  /-- A reader can only be used by one meter. -/
  | readerInUse (meter : String)
deriving DecidableEq, Repr

namespace Meter

/-- Whether one attribute is listed before another. -/
def isListedBefore (a b : String × String) : Bool := a.1 ≤ b.1

/-- The attributes in the order of their names. -/
def series (attributes : Attributes) : Attributes := attributes.mergeSort isListedBefore

/-- Whether the meter takes nothing. -/
def isSilent (m : Meter) : Bool := m.name = ""

/-- Does what is to be done with a value that counts: one that is finite and not negative. -/
def taking (m : Meter) (value : Number) (take : Unit → Except ArithmeticError Meter) :
    Except ArithmeticError Meter :=
  if m.isSilent || value.lt (.int 0) then .ok m
  else
    match value.toDouble? with
    | none => .error .tooLarge
    | some x => if x.isFinite then take () else .ok m

/-- Adds to a counter. -/
def add (m : Meter) (counter : Counter) (delta : Int) (attributes : Attributes) :
    Except ArithmeticError Meter :=
  m.taking (.int delta) fun _ =>
    let key := (counter, series attributes)
    .ok { m with sums := putField key ((m.sums.lookup key).getD 0 + delta) m.sums }

/-- Takes a sample of a histogram. -/
def record (m : Meter) (histogram : Histogram) (value : Number) (attributes : Attributes) :
    Except ArithmeticError Meter :=
  m.taking value fun _ =>
    let key := (histogram, series attributes)
    let bounds := histogram.boundaries
    let d := (m.distributions.lookup key).getD (Distribution.empty bounds)
    (d.add bounds value).map fun d => { m with distributions := putField key d m.distributions }

/-- Takes an update. -/
def apply (m : Meter) : Update → Except ArithmeticError Meter
  | .add counter delta attributes => m.add counter delta attributes
  | .record histogram value attributes => m.record histogram value attributes

/-- Takes updates in order, up to the first that it cannot take. -/
def applyAll (m : Meter) : List Update → Meter × Option ArithmeticError
  | [] => (m, none)
  | update :: rest =>
    match m.apply update with
    | .ok m => m.applyAll rest
    | .error e => (m, some e)

/-- The series of a counter. -/
def sumsOf (m : Meter) (counter : Counter) : List (Attributes × Int) :=
  (m.sums.filter fun entry => entry.1.1 = counter).map fun entry => (entry.1.2, entry.2)

/-- The series of a histogram. -/
def distributionsOf (m : Meter) (histogram : Histogram) : List (Attributes × Distribution) :=
  (m.distributions.filter fun entry => entry.1.1 = histogram).map fun entry => (entry.1.2, entry.2)

end Meter

end RetrievalTelemetry
