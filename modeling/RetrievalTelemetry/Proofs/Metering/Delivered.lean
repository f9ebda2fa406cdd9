/-
What the events of a retrieval leave in its progress.

Progress is written piece by piece, and some pieces keep their first value while others add up.
`Summary W p` says what the pieces of `p` are in terms of the events `W` alone: the time of the
first event of a kind, the sum of the counts, the number of failures.  An event that is handled
extends `W` by one at its end, and nothing else about the order of writing is needed.
-/
import Mathlib.Algebra.Ring.Int.Defs
import RetrievalTelemetry.Metering.Event

namespace RetrievalTelemetry

namespace Event

/-- Whether an event has a phase and a code. -/
def isOf (phase : Phase) (code : EventCode) (e : Event) : Bool := e.phase = phase ∧ e.code = code

/-- The count of candidates, if it says anything. -/
def positiveCount? (e : Event) : Option Int := e.candidates?.filter fun count => 0 < count

def firstTime? (phase : Phase) (code : EventCode) (events : List Event) : Option Timestamp :=
  (events.find? (isOf phase code)).map time

/-- The sum of the positive counts that the indexer reports with a code. -/
def counted (code : EventCode) (events : List Event) : Int :=
  ((events.filter (isOf .indexer code)).filterMap positiveCount?).sum

def failedAttempts (events : List Event) : Nat := events.countP (isOf .retrieval .failure)

theorem firstTime?_concat (phase : Phase) (code : EventCode) (events : List Event) (e : Event) :
    firstTime? phase code (events ++ [e])
      = (firstTime? phase code events).or (if e.isOf phase code then some e.time else none) := by
  unfold firstTime?
  rw [List.find?_append, Option.map_or]
  cases h : e.isOf phase code <;> simp [h]

theorem counted_concat (code : EventCode) (events : List Event) (e : Event) :
    counted code (events ++ [e])
      = counted code events + (if e.isOf .indexer code then e.positiveCount?.getD 0 else 0) := by
  unfold counted
  rw [List.filter_append, List.filterMap_append, List.sum_append]
  congr 1
  cases h : e.isOf .indexer code with
  | false => simp [h]
  | true => cases hcount : e.positiveCount? <;> simp [h, hcount]

theorem failedAttempts_concat (events : List Event) (e : Event) :
    failedAttempts (events ++ [e])
      = failedAttempts events + (if e.isOf .retrieval .failure then 1 else 0) := by
  unfold failedAttempts
  rw [List.countP_append, List.countP_singleton]

end Event

/-- The progress of a retrieval after an action that it lives through. -/
def Action.writeTo (p : Progress) : Action → Progress
  | .mark m _ => (p.mark m).2
  | .close _ => p
  | .tell _ => p

namespace Progress

open Event

/-- The progress of a retrieval after an event that it lives through. -/
def take (p : Progress) (e : Event) : Progress := (Metering.rule e).writeTo p

/-- The pieces of a progress are those of the events. -/
structure Summary (events : List Event) (p : Progress) : Prop where
  start : p.start = firstTime? .indexer .started events
  candidates : p.candidates = counted .candidatesFound events
  filtered : p.filtered = counted .candidatesFiltered events
  firstByte : p.firstByte = firstTime? .retrieval .firstByte events
  failures : p.failures = failedAttempts events

theorem summary_nil : Summary [] empty := ⟨rfl, rfl, rfl, rfl, rfl⟩

/-! ### One write -/

theorem mark_start (p : Progress) (time : Timestamp) :
    (p.mark (.start time)).2 = { p with start := p.start.or (some time) } := by
  unfold mark
  cases h : p.start with
  | none => rfl
  | some first =>
      show p = { p with start := some first }
      rw [← h]

theorem mark_firstByte (p : Progress) (time : Timestamp) :
    (p.mark (.firstByte time)).2 = { p with firstByte := p.firstByte.or (some time) } := by
  unfold mark
  cases h : p.firstByte with
  | none => rfl
  | some first =>
      show p = { p with firstByte := some first }
      rw [← h]

theorem mark_candidates (p : Progress) (time : Timestamp) (count : Int) :
    (p.mark (.candidates time count)).2
      = { p with
          candidates := p.candidates + count
          firstCandidate := if p.candidates = 0 then some time else p.firstCandidate } := by
  unfold mark
  by_cases h : p.candidates = 0
  · simp [h]
  · simp [h]

/-- A count is taken if it is positive. -/
theorem writeTo_ifCounted (p : Progress) (e : Event) (mark : Int → Mark)
    (told : Int → MarkAnswer → Option Timestamp → List Update) :
    (Metering.ifCounted e fun count => .mark (mark count) (told count)).writeTo p
      = match e.positiveCount? with
        | none => p
        | some count => (p.mark (mark count)).2 := by
  unfold Metering.ifCounted positiveCount?
  cases e.candidates? with
  | none => rfl
  | some count =>
      by_cases h : count ≤ 0
      · have hnone : (some count).filter (fun count => decide (0 < count)) = none := by simp [h]
        simp only [hnone, if_pos h]
        rfl
      · have hsome : (some count).filter (fun count => decide (0 < count)) = some count := by
          simpa using h
        simp only [hsome, if_neg h]
        rfl

/-- What an event contributes to each of the pieces. -/
theorem take_pieces (p : Progress) (e : Event) :
    (p.take e).start = p.start.or (if e.isOf .indexer .started then some e.time else none) ∧
    (p.take e).candidates = p.candidates
      + (if e.isOf .indexer .candidatesFound then e.positiveCount?.getD 0 else 0) ∧
    (p.take e).filtered = p.filtered
      + (if e.isOf .indexer .candidatesFiltered then e.positiveCount?.getD 0 else 0) ∧
    (p.take e).firstByte
      = p.firstByte.or (if e.isOf .retrieval .firstByte then some e.time else none) ∧
    (p.take e).failures = p.failures + (if e.isOf .retrieval .failure then 1 else 0) := by
  unfold take
  cases hphase : e.phase <;> cases hcode : e.code <;>
    simp only [Metering.rule, hphase, hcode, isOf, reduceCtorEq, and_true, and_false, and_self,
      decide_true, decide_false, Bool.false_eq_true, if_true, if_false, Option.or_none,
      Int.add_zero, Nat.add_zero] <;>
    try exact ⟨rfl, rfl, rfl, rfl, rfl⟩
  case indexer.started =>
    simp only [Metering.indexerStarted, Action.writeTo, mark_start, and_self]
  case indexer.candidatesFound =>
    simp only [Metering.candidatesFound, writeTo_ifCounted, mark_candidates]
    cases e.positiveCount? <;> simp
  case indexer.candidatesFiltered =>
    simp only [Metering.candidatesFiltered, writeTo_ifCounted]
    cases e.positiveCount? <;> simp [mark]
  case retrieval.started =>
    unfold Metering.retrievalStarted
    split <;> exact ⟨rfl, rfl, rfl, rfl, rfl⟩
  case retrieval.firstByte =>
    simp only [Metering.firstByte, Action.writeTo, mark_firstByte, and_self]

/-- An event that is handled extends the events by one. -/
theorem Summary.take {events : List Event} {p : Progress} (h : Summary events p) (e : Event) :
    Summary (events ++ [e]) (p.take e) := by
  obtain ⟨hstart, hcandidates, hfiltered, hfirst, hfailures⟩ := take_pieces p e
  refine ⟨?_, ?_, ?_, ?_, ?_⟩
  · rw [hstart, h.start, firstTime?_concat]
  · rw [hcandidates, h.candidates, counted_concat]
  · rw [hfiltered, h.filtered, counted_concat]
  · rw [hfirst, h.firstByte, firstTime?_concat]
  · rw [hfailures, h.failures, failedAttempts_concat]

end Progress

end RetrievalTelemetry
