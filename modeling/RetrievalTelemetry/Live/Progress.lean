/-
The progress of a retrieval that is not finished.

The three times and the two flags keep their first value; counts add up everything that is
reported, also what is reported twice.  Writing answers whether the write was the first of
its kind, or how many failures there are now.
-/
import RetrievalTelemetry.Time.Timestamp

namespace RetrievalTelemetry

/-- What is known about a retrieval so far. -/
structure Progress where
  start : Option Timestamp := none
  candidates : Int := 0
  /-- When candidates were first reported. -/
  firstCandidate : Option Timestamp := none
  filtered : Int := 0
  bitswap : Bool := false
  graphsync : Bool := false
  firstByte : Option Timestamp := none
  failures : Nat := 0
deriving DecidableEq, Repr, Inhabited

/-- A contribution to the progress of a retrieval. -/
inductive Mark where
  | start (time : Timestamp)
  | candidates (time : Timestamp) (count : Int)
  | filtered (count : Int)
  | bitswap
  | graphsync
  | firstByte (time : Timestamp)
  | failure
deriving DecidableEq, Repr

/-- What a contribution answers. -/
inductive MarkAnswer where
  /-- Whether it was the first of its kind. -/
  | first (isFirst : Bool)
  /-- How many failures there are now. -/
  | failures (count : Nat)
deriving DecidableEq, Repr

namespace Progress

/-- Nothing is known yet. -/
def empty : Progress := {}

/-- The time from the start to the first candidates. -/
def timeToFirstCandidate (p : Progress) : Option Duration :=
  match p.start, p.firstCandidate with
  | some start, some first => some (first.since start)
  | _, _ => none

/-- The time from the start to the first byte. -/
def timeToFirstByte (p : Progress) : Option Duration :=
  match p.start, p.firstByte with
  | some start, some first => some (first.since start)
  | _, _ => none

/-- Applies a contribution. -/
def mark (p : Progress) : Mark → MarkAnswer × Progress
  | .start time =>
    if p.start.isSome then (.first false, p) else (.first true, { p with start := some time })
  | .candidates time count =>
    if p.candidates = 0 then
      (.first true, { p with candidates := p.candidates + count, firstCandidate := some time })
    else (.first false, { p with candidates := p.candidates + count })
  | .filtered count =>
    (.first (p.filtered = 0), { p with filtered := p.filtered + count })
  | .bitswap => (.first !p.bitswap, { p with bitswap := true })
  | .graphsync => (.first !p.graphsync, { p with graphsync := true })
  | .firstByte time =>
    if p.firstByte.isSome then (.first false, p) else (.first true, { p with firstByte := some time })
  | .failure => (.failures (p.failures + 1), { p with failures := p.failures + 1 })

end Progress

/-- What a contribution answers that comes too late. -/
def Mark.lateAnswer : Mark → MarkAnswer
  | .failure => .failures 0
  | _ => .first false

end RetrievalTelemetry
