/-
Recycled memory for progress.

Progress is kept in slots, and slots are used again for other retrievals.  Each slot counts
its epochs: clearing it begins a new one.  A handle remembers the epoch in which it was
given out and writes only in that one, so whoever still holds the handle of a retrieval
that is over can do no harm to the next one in the same slot.
-/
import RetrievalTelemetry.Live.Progress

namespace RetrievalTelemetry

/-- One place for the progress of a retrieval. -/
structure Slot where
  epoch : Nat := 0
  progress : Progress := Progress.empty
deriving DecidableEq, Repr, Inhabited

/-- The right to write into a slot during one epoch. -/
structure Handle where
  /-- The number of the slot. -/
  slot : Nat
  epoch : Nat
deriving DecidableEq, Repr, Inhabited

/-- All slots ever made, by number. -/
abbrev Slots := Array Slot

namespace Slots

/-- The slot with a number; one that was never made is as good as new. -/
def slot (slots : Slots) (i : Nat) : Slot := (slots[i]?).getD {}

/-- A new slot, and its number. -/
def fresh (slots : Slots) : Nat × Slots := (slots.size, slots.push {})

/-- The handle for the current epoch of a slot. -/
def handle (slots : Slots) (i : Nat) : Handle := ⟨i, (slots.slot i).epoch⟩

/-- Whether a handle can still write. -/
def isCurrent (slots : Slots) (h : Handle) : Bool := h.epoch == (slots.slot h.slot).epoch

/-- Writes through a handle; a late write changes nothing. -/
def write (slots : Slots) (h : Handle) (mark : Mark) : MarkAnswer × Slots :=
  if slots.isCurrent h then
    let (answer, progress) := (slots.slot h.slot).progress.mark mark
    (answer, slots.modify h.slot fun s => { s with progress := progress })
  else (mark.lateAnswer, slots)

/-- The start time seen through a handle. -/
def startTime (slots : Slots) (h : Handle) : Option Timestamp :=
  if slots.isCurrent h then (slots.slot h.slot).progress.start else none

/-- Empties a slot and begins its next epoch. -/
def clear (slots : Slots) (i : Nat) : Slots :=
  slots.modify i fun s => ⟨s.epoch + 1, Progress.empty⟩

end Slots

/-- Slots that wait to be used again, the last one returned first. -/
structure Pool where
  capacity : Nat
  free : List Nat := []
deriving DecidableEq, Repr

/-- A pool cannot have a negative capacity. -/
structure PoolError where
  capacity : Int
deriving DecidableEq, Repr

/-- The words for a negative capacity. -/
def PoolError.message (e : PoolError) : String := "max_size must be >= 0, got " ++ toString e.capacity

namespace Pool

/-- An empty pool. -/
def ofCapacity (capacity : Int) : Except PoolError Pool :=
  if capacity < 0 then .error ⟨capacity⟩ else .ok { capacity := capacity.toNat }

/-- The number of waiting slots. -/
def size (pool : Pool) : Nat := pool.free.length

/-- A slot from the pool, or a new one if none is waiting. -/
def acquire (pool : Pool) (slots : Slots) : Nat × Pool × Slots :=
  match pool.free with
  | i :: rest => (i, { pool with free := rest }, slots)
  | [] => let (i, slots) := slots.fresh; (i, pool, slots)

/-- Clears a slot and keeps it for later, unless the pool is full. -/
def release (pool : Pool) (slots : Slots) (i : Nat) : Pool × Slots :=
  (if pool.free.length < pool.capacity then { pool with free := i :: pool.free } else pool, slots.clear i)

end Pool

end RetrievalTelemetry
