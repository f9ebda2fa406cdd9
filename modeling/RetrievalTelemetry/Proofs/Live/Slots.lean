/-
What the slots hold after each operation.

The table never looks at the array itself, only at `slot i` and at the number of slots, so every
operation is described by what it does to these two.  A slot that was never made reads like a
new one, which is why making a slot changes no reading.

The one fact the rest depends on is that epochs never fall, and that clearing raises the epoch of
exactly the slot it clears: a handle from before then never writes again.
-/
import RetrievalTelemetry.Live.Slots

namespace RetrievalTelemetry

namespace Slots

theorem slot_modify (slots : Slots) (i j : Nat) (f : Slot → Slot) :
    Slots.slot (slots.modify i f) j
      = if i = j ∧ i < slots.size then f (slots.slot j) else slots.slot j := by
  unfold slot
  rw [Array.getElem?_modify]
  by_cases hij : i = j
  · subst hij
    by_cases hi : i < slots.size
    · simp [hi]
    · simp [hi]
  · simp [hij]

theorem slot_fresh (slots : Slots) (j : Nat) : slots.fresh.2.slot j = slots.slot j := by
  unfold slot fresh
  rw [Array.getElem?_push]
  by_cases hj : j = slots.size
  · rw [if_pos hj, hj, Array.getElem?_eq_none (Nat.le_refl _)]
    rfl
  · rw [if_neg hj]

@[simp] theorem size_fresh (slots : Slots) : slots.fresh.2.size = slots.size + 1 := by
  simp [fresh]

@[simp] theorem size_clear (slots : Slots) (i : Nat) : (slots.clear i).size = slots.size := by
  simp [clear]

theorem slot_clear_self {slots : Slots} {i : Nat} (hi : i < slots.size) :
    (slots.clear i).slot i = ⟨(slots.slot i).epoch + 1, Progress.empty⟩ := by
  rw [clear, slot_modify, if_pos ⟨rfl, hi⟩]

theorem slot_clear_ne {slots : Slots} {i j : Nat} (hij : i ≠ j) :
    (slots.clear i).slot j = slots.slot j := by
  rw [clear, slot_modify, if_neg fun h => hij h.1]

theorem epoch_le_clear (slots : Slots) (i j : Nat) :
    (slots.slot j).epoch ≤ ((slots.clear i).slot j).epoch := by
  rw [clear, slot_modify]
  split
  · exact Nat.le_succ _
  · exact Nat.le_refl _

/-! ### Writing -/

theorem write_late {slots : Slots} {h : Handle} (hc : slots.isCurrent h = false) (m : Mark) :
    slots.write h m = (m.lateAnswer, slots) := by
  rw [write, if_neg (by simp [hc])]

theorem write_current {slots : Slots} {h : Handle} (hc : slots.isCurrent h = true) (m : Mark) :
    slots.write h m
      = (((slots.slot h.slot).progress.mark m).1,
         slots.modify h.slot fun s =>
           { s with progress := ((slots.slot h.slot).progress.mark m).2 }) := by
  rw [write, if_pos hc]

@[simp] theorem size_write (slots : Slots) (h : Handle) (m : Mark) :
    (slots.write h m).2.size = slots.size := by
  unfold write
  split
  · simp
  · rfl

@[simp] theorem epoch_write (slots : Slots) (h : Handle) (m : Mark) (j : Nat) :
    ((slots.write h m).2.slot j).epoch = (slots.slot j).epoch := by
  unfold write
  split
  · show (Slots.slot (slots.modify _ _) j).epoch = _
    rw [slot_modify]
    split <;> rfl
  · rfl

theorem isCurrent_write (slots : Slots) (h h' : Handle) (m : Mark) :
    (slots.write h m).2.isCurrent h' = slots.isCurrent h' := by
  simp [isCurrent]

theorem slot_write_self {slots : Slots} {h : Handle} (hc : slots.isCurrent h = true)
    (hi : h.slot < slots.size) (m : Mark) :
    ((slots.write h m).2.slot h.slot).progress = ((slots.slot h.slot).progress.mark m).2 := by
  rw [write_current hc, slot_modify, if_pos ⟨rfl, hi⟩]

theorem slot_write_ne {slots : Slots} {h : Handle} {j : Nat} (hj : h.slot ≠ j) (m : Mark) :
    (slots.write h m).2.slot j = slots.slot j := by
  cases hc : slots.isCurrent h with
  | false => rw [write_late hc]
  | true => rw [write_current hc, slot_modify, if_neg fun hh => hj hh.1]

end Slots

/-! ### Taking a slot and giving it back -/

namespace Pool

/-- A slot comes from the pool, or it is the next one to be made. -/
theorem acquire_cases (pool : Pool) (slots : Slots) :
    (∃ i rest, pool.free = i :: rest ∧
      pool.acquire slots = (i, { pool with free := rest }, slots)) ∨
    (pool.free = [] ∧ pool.acquire slots = (slots.size, pool, slots.fresh.2)) := by
  unfold acquire
  cases hfree : pool.free with
  | nil => exact Or.inr ⟨rfl, rfl⟩
  | cons i rest => exact Or.inl ⟨i, rest, rfl, rfl⟩

/-- Taking a slot changes what no slot holds. -/
theorem slot_acquire (pool : Pool) (slots : Slots) (j : Nat) :
    (pool.acquire slots).2.2.slot j = slots.slot j := by
  rcases acquire_cases pool slots with ⟨i, rest, -, h⟩ | ⟨-, h⟩
  · rw [h]
  · rw [h]
    exact Slots.slot_fresh slots j

theorem free_release (pool : Pool) (slots : Slots) (i : Nat) :
    (pool.release slots i).1.free
      = if pool.free.length < pool.capacity then i :: pool.free else pool.free := by
  unfold release
  split <;> rfl

@[simp] theorem capacity_release (pool : Pool) (slots : Slots) (i : Nat) :
    (pool.release slots i).1.capacity = pool.capacity := by
  unfold release
  dsimp only
  split <;> rfl

end Pool

end RetrievalTelemetry
