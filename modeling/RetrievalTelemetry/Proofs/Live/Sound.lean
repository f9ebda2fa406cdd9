/-
What is true of the live table at all times.

`Sound` says what the parts of the table owe each other: no retrieval has two entries, no slot
serves two entries or an entry and the pool at once, every entry can still write to its slot, a
slot in the pool is empty, and a deadline that carries the number of an entry belongs to the same
retrieval.  Nothing is said of deadlines whose number belongs to no entry; they are what finished
retrievals leave behind.

Removing an entry is two steps, taking it out of the list and giving its slot back, and an expiry
takes all its entries out before it gives back the first slot.  Both steps keep the table
sound by themselves, so neither has to be undone in the proof of the other.
-/
import RetrievalTelemetry.Proofs.Live.Queue
import RetrievalTelemetry.Proofs.Live.Slots

namespace RetrievalTelemetry

namespace LiveTable

/-- The slots of the live entries. -/
def liveSlots (t : LiveTable) : List Nat := t.entries.map fun e => e.2.handle.slot

/-- What the parts of a table owe each other. -/
structure Sound (t : LiveTable) : Prop where
  /-- A retrieval has one entry at most. -/
  ids : (t.entries.map fun e => e.1).Nodup
  /-- Entries stand in the order in which they were made. -/
  numbers : t.entries.Pairwise fun a b => a.2.sequence < b.2.sequence
  numberLt : ∀ e ∈ t.entries, e.2.sequence < t.sequence
  /-- A slot serves one entry, or waits once. -/
  slotsNodup : (t.liveSlots ++ t.pool.free).Nodup
  slotLt : ∀ i ∈ t.liveSlots ++ t.pool.free, i < t.slots.size
  /-- An entry can write to its slot. -/
  current : ∀ e ∈ t.entries, t.slots.isCurrent e.2.handle = true
  /-- A waiting slot holds nothing. -/
  clean : ∀ i ∈ t.pool.free, (t.slots.slot i).progress = Progress.empty
  room : t.pool.free.length ≤ t.pool.capacity
  queueLt : ∀ d ∈ t.queue, d.sequence < t.sequence
  queueNodup : (t.queue.map Deadline.sequence).Nodup
  /-- A deadline with the number of an entry is the deadline of its retrieval. -/
  owner : ∀ d ∈ t.queue, ∀ e ∈ t.entries, e.2.sequence = d.sequence → e.1 = d.id
  ordered : Deadline.Clear t.queue → t.queue.Pairwise fun a b => a.isBefore b = true

/-- A new table is empty. -/
theorem eq_of_ofTimeout {timeout : Number} {pool : Pool} {t : LiveTable}
    (h : LiveTable.ofTimeout timeout pool = .ok t) : t = { timeout := timeout, pool := pool } := by
  unfold ofTimeout at h
  split at h
  · cases h
  · cases h
    rfl

/-- A new table is sound. -/
theorem sound_of_ofTimeout {timeout : Number} {capacity : Int} {pool : Pool} {t : LiveTable}
    (hpool : Pool.ofCapacity capacity = .ok pool) (ht : LiveTable.ofTimeout timeout pool = .ok t) :
    Sound t := by
  rw [eq_of_ofTimeout ht]
  unfold Pool.ofCapacity at hpool
  split at hpool
  · cases hpool
  · cases hpool
    constructor <;> simp [liveSlots]

/-! ### Entries -/

theorem live?_eq_some_iff {t : LiveTable} (ids : (t.entries.map fun e => e.1).Nodup) {id : Uuid}
    {entry : LiveEntry} : t.live? id = some entry ↔ (id, entry) ∈ t.entries := by
  unfold live?
  generalize t.entries = l at ids
  induction l with
  | nil => simp
  | cons e rest ih =>
      obtain ⟨id', entry'⟩ := e
      rw [List.map_cons, List.nodup_cons] at ids
      by_cases hid : id = id'
      · subst hid
        rw [List.lookup_cons_self, List.mem_cons, Option.some.injEq]
        constructor
        · intro h
          exact Or.inl (by rw [h])
        · rintro (h | h)
          · rw [Prod.mk.injEq] at h
            exact h.2.symm
          · exact absurd (List.mem_map.mpr ⟨_, h, rfl⟩) ids.1
      · have hbeq : (id == id') = false := by simpa using hid
        rw [List.lookup_cons, hbeq, List.mem_cons, Prod.mk.injEq]
        simp [hid, ih ids.2]

theorem live?_eq_none_iff {t : LiveTable} {id : Uuid} :
    t.live? id = none ↔ ∀ e ∈ t.entries, e.1 ≠ id := by
  unfold live?
  rw [List.lookup_eq_none_iff]
  constructor
  · intro h e he hid
    exact absurd (h e he) (by simp [hid])
  · intro h e he
    simpa using Ne.symm (h e he)

namespace Sound

variable {t : LiveTable}

/-- Entries with the same number are the same. -/
theorem eq_of_sequence (s : Sound t) {a b : Uuid × LiveEntry} (ha : a ∈ t.entries)
    (hb : b ∈ t.entries) (h : a.2.sequence = b.2.sequence) : a = b :=
  List.inj_on_of_nodup_map (List.pairwise_map.mpr (s.numbers.imp Nat.ne_of_lt)) ha hb h

theorem liveSlots_nodup (s : Sound t) : t.liveSlots.Nodup :=
  (List.nodup_append.mp s.slotsNodup).1

/-- Entries with the same slot are the same. -/
theorem eq_of_slot (s : Sound t) {a b : Uuid × LiveEntry} (ha : a ∈ t.entries)
    (hb : b ∈ t.entries) (h : a.2.handle.slot = b.2.handle.slot) : a = b :=
  List.inj_on_of_nodup_map s.liveSlots_nodup ha hb h

theorem mem_liveSlots {e : Uuid × LiveEntry} (he : e ∈ t.entries) :
    e.2.handle.slot ∈ t.liveSlots :=
  List.mem_map_of_mem he

theorem liveSlot_lt (s : Sound t) {e : Uuid × LiveEntry} (he : e ∈ t.entries) :
    e.2.handle.slot < t.slots.size :=
  s.slotLt _ (List.mem_append_left _ (mem_liveSlots he))

theorem liveSlot_not_free (s : Sound t) {e : Uuid × LiveEntry} (he : e ∈ t.entries) :
    e.2.handle.slot ∉ t.pool.free :=
  fun hfree => (List.nodup_append.mp s.slotsNodup).2.2 _ (mem_liveSlots he) _ hfree rfl

/-! ### Taking entries out of the list -/

/-- Any entries may be dropped from the list. -/
theorem filter (s : Sound t) (p : Uuid × LiveEntry → Bool) :
    Sound { t with entries := t.entries.filter p } where
  ids := s.ids.sublist (List.filter_sublist.map _)
  numbers := s.numbers.filter p
  numberLt e he := s.numberLt e (List.mem_of_mem_filter he)
  slotsNodup :=
    s.slotsNodup.sublist ((List.filter_sublist.map _).append (List.Sublist.refl _))
  slotLt i hi :=
    s.slotLt i (((List.filter_sublist.map _).append (List.Sublist.refl _)).mem hi)
  current e he := s.current e (List.mem_of_mem_filter he)
  clean := s.clean
  room := s.room
  queueLt := s.queueLt
  queueNodup := s.queueNodup
  owner d hd e he := s.owner d hd e (List.mem_of_mem_filter he)
  ordered := s.ordered

theorem removeEntry (s : Sound t) (id : Uuid) : Sound (t.removeEntry id) :=
  s.filter _

/-! ### Giving a slot back -/

end Sound

@[simp] theorem retire_liveSlots (t : LiveTable) (entry : LiveEntry) :
    (t.retire entry).2.liveSlots = t.liveSlots := rfl

theorem retire_slots (t : LiveTable) (entry : LiveEntry) :
    (t.retire entry).2.slots = (t.slots.clear entry.handle.slot).clear entry.handle.slot := rfl

theorem retire_pool (t : LiveTable) (entry : LiveEntry) :
    (t.retire entry).2.pool.free
      = if t.pool.free.length < t.pool.capacity then entry.handle.slot :: t.pool.free
        else t.pool.free :=
  Pool.free_release t.pool (t.slots.clear entry.handle.slot) entry.handle.slot

@[simp] theorem retire_capacity (t : LiveTable) (entry : LiveEntry) :
    (t.retire entry).2.pool.capacity = t.pool.capacity :=
  Pool.capacity_release t.pool (t.slots.clear entry.handle.slot) entry.handle.slot

@[simp] theorem retire_size (t : LiveTable) (entry : LiveEntry) :
    (t.retire entry).2.slots.size = t.slots.size := by
  simp [retire_slots]

/-- The slot of a retired entry is empty, two epochs on. -/
theorem slot_retire_self {t : LiveTable} {entry : LiveEntry}
    (hi : entry.handle.slot < t.slots.size) :
    (t.retire entry).2.slots.slot entry.handle.slot
      = ⟨(t.slots.slot entry.handle.slot).epoch + 2, Progress.empty⟩ := by
  rw [retire_slots, Slots.slot_clear_self (by simpa using hi), Slots.slot_clear_self hi]

theorem slot_retire_ne {t : LiveTable} {entry : LiveEntry} {j : Nat}
    (hj : entry.handle.slot ≠ j) : (t.retire entry).2.slots.slot j = t.slots.slot j := by
  rw [retire_slots, Slots.slot_clear_ne hj, Slots.slot_clear_ne hj]

theorem epoch_le_retire (t : LiveTable) (entry : LiveEntry) (j : Nat) :
    (t.slots.slot j).epoch ≤ ((t.retire entry).2.slots.slot j).epoch :=
  (Slots.epoch_le_clear ..).trans (Slots.epoch_le_clear ..)

/-- An entry that is out of the list can give back its slot. -/
theorem Sound.retire {t : LiveTable} (s : Sound t) {entry : LiveEntry}
    (hfree : entry.handle.slot ∉ t.liveSlots ++ t.pool.free)
    (hlt : entry.handle.slot < t.slots.size) : Sound (t.retire entry).2 where
  ids := s.ids
  numbers := s.numbers
  numberLt := s.numberLt
  slotsNodup := by
    rw [retire_liveSlots, retire_pool]
    split
    · exact List.nodup_middle.mpr (List.nodup_cons.mpr ⟨hfree, s.slotsNodup⟩)
    · exact s.slotsNodup
  slotLt i hi := by
    rw [retire_liveSlots, retire_pool] at hi
    rw [retire_size]
    split at hi
    · rcases List.mem_cons.mp (List.perm_middle.mem_iff.mp hi) with rfl | hi
      · exact hlt
      · exact s.slotLt i hi
    · exact s.slotLt i hi
  current e he := by
    have hne : entry.handle.slot ≠ e.2.handle.slot := by
      intro hc
      exact hfree (hc ▸ List.mem_append_left _ (mem_liveSlots he))
    show (_ == _) = true
    rw [slot_retire_ne hne]
    exact s.current e he
  clean i hi := by
    by_cases hslot : entry.handle.slot = i
    · rw [← hslot, slot_retire_self hlt]
    · rw [slot_retire_ne hslot]
      rw [retire_pool] at hi
      split at hi
      · exact s.clean i ((List.mem_cons.mp hi).resolve_left fun h => hslot h.symm)
      · exact s.clean i hi
  room := by
    rw [retire_pool, retire_capacity]
    split
    · rename_i hroom
      exact hroom
    · exact s.room
  queueLt := s.queueLt
  queueNodup := s.queueNodup
  owner := s.owner
  ordered := s.ordered

/-! ### Making an entry -/

theorem insert_entries (t : LiveTable) (id : Uuid) :
    (t.insert id).2.entries = t.entries ++ [(id, ⟨(t.insert id).1, t.sequence⟩)] := rfl

@[simp] theorem insert_timeout (t : LiveTable) (id : Uuid) :
    (t.insert id).2.timeout = t.timeout := rfl

theorem insert_liveSlots (t : LiveTable) (id : Uuid) :
    (t.insert id).2.liveSlots = t.liveSlots ++ [(t.insert id).1.slot] := by
  simp [liveSlots, insert_entries]

/-- A new entry changes what no slot holds. -/
@[simp] theorem slot_insert (t : LiveTable) (id : Uuid) (j : Nat) :
    (t.insert id).2.slots.slot j = t.slots.slot j :=
  Pool.slot_acquire t.pool t.slots j

theorem insert_epoch (t : LiveTable) (id : Uuid) :
    (t.insert id).1.epoch = (t.slots.slot (t.insert id).1.slot).epoch :=
  congrArg Slot.epoch (Pool.slot_acquire t.pool t.slots _)

/-- The slot of a new entry waited in the pool, or it is new. -/
theorem insert_cases (t : LiveTable) (id : Uuid) :
    (∃ rest, t.pool.free = (t.insert id).1.slot :: rest ∧
      (t.insert id).2.pool = { t.pool with free := rest } ∧ (t.insert id).2.slots = t.slots) ∨
    (t.pool.free = [] ∧ (t.insert id).1.slot = t.slots.size ∧ (t.insert id).2.pool = t.pool ∧
      (t.insert id).2.slots.size = t.slots.size + 1) := by
  rcases Pool.acquire_cases t.pool t.slots with ⟨i, rest, hfree, h⟩ | ⟨hfree, h⟩
  · refine Or.inl ⟨rest, ?_, ?_, ?_⟩ <;> simp [insert, Slots.handle, h, hfree]
  · refine Or.inr ⟨hfree, ?_, ?_, ?_⟩ <;> simp [insert, Slots.handle, h]

/-- A new entry begins with nothing known. -/
theorem Sound.progress_insert {t : LiveTable} (s : Sound t) (id : Uuid) :
    (t.slots.slot (t.insert id).1.slot).progress = Progress.empty := by
  rcases insert_cases t id with ⟨rest, hfree, -⟩ | ⟨-, hslot, -⟩
  · exact s.clean _ (by rw [hfree]; exact List.mem_cons_self)
  · rw [hslot]
    simp [Slots.slot]

theorem Sound.insert {t : LiveTable} (s : Sound t) {id : Uuid} (hid : t.live? id = none) :
    Sound (t.insert id).2 where
  ids := by
    rw [insert_entries, List.map_append]
    refine List.nodup_append.mpr ⟨s.ids, List.nodup_singleton _, ?_⟩
    rintro a ha b hb rfl
    obtain ⟨e, he, rfl⟩ := List.mem_map.mp ha
    exact live?_eq_none_iff.mp hid e he (List.mem_singleton.mp hb)
  numbers := by
    rw [insert_entries]
    refine List.pairwise_append.mpr ⟨s.numbers, List.pairwise_singleton _ _, ?_⟩
    intro a ha b hb
    rw [List.mem_singleton.mp hb]
    exact s.numberLt a ha
  numberLt e he := by
    rw [insert_entries] at he
    rcases List.mem_append.mp he with he | he
    · exact Nat.lt_succ_of_lt (s.numberLt e he)
    · rw [List.mem_singleton.mp he]
      exact Nat.lt_succ_self _
  slotsNodup := by
    rw [insert_liveSlots, List.append_assoc, List.singleton_append]
    rcases insert_cases t id with ⟨rest, hfree, hpool, -⟩ | ⟨hfree, hslot, hpool, -⟩
    · rw [hpool]
      show (t.liveSlots ++ (t.insert id).1.slot :: rest).Nodup
      rw [← hfree]
      exact s.slotsNodup
    · rw [hpool, hslot]
      refine List.nodup_middle.mpr (List.nodup_cons.mpr ⟨fun hmem => ?_, s.slotsNodup⟩)
      exact Nat.lt_irrefl _ (s.slotLt _ hmem)
  slotLt i hi := by
    rw [insert_liveSlots, List.append_assoc, List.singleton_append] at hi
    rcases insert_cases t id with ⟨rest, hfree, hpool, hslots⟩ | ⟨hfree, hslot, hpool, hsize⟩
    · rw [hslots]
      rw [hpool] at hi
      exact s.slotLt i (hfree ▸ hi)
    · rw [hsize]
      rw [hpool, hslot] at hi
      rcases List.mem_cons.mp (List.perm_middle.mem_iff.mp hi) with rfl | hi
      · exact Nat.lt_succ_self _
      · exact Nat.lt_succ_of_lt (s.slotLt i hi)
  current e he := by
    show (_ == _) = true
    rw [slot_insert]
    rw [insert_entries] at he
    rcases List.mem_append.mp he with he | he
    · exact s.current e he
    · rw [List.mem_singleton.mp he]
      simpa using insert_epoch t id
  clean i hi := by
    rw [slot_insert]
    refine s.clean i ?_
    rcases insert_cases t id with ⟨rest, hfree, hpool, -⟩ | ⟨-, -, hpool, -⟩
    · rw [hfree]
      rw [hpool] at hi
      exact List.mem_cons_of_mem _ hi
    · exact hpool ▸ hi
  room := by
    rcases insert_cases t id with ⟨rest, hfree, hpool, -⟩ | ⟨-, -, hpool, -⟩
    · rw [hpool]
      have := s.room
      rw [hfree, List.length_cons] at this
      exact Nat.le_of_succ_le this
    · rw [hpool]
      exact s.room
  queueLt d hd := Nat.lt_succ_of_lt (s.queueLt d hd)
  queueNodup := s.queueNodup
  owner d hd e he hnum := by
    rw [insert_entries] at he
    rcases List.mem_append.mp he with he | he
    · exact s.owner d hd e he hnum
    · rw [List.mem_singleton.mp he] at hnum
      exact absurd (s.queueLt d hd) (by rw [← hnum]; exact Nat.lt_irrefl _)
  ordered := s.ordered

/-- A deadline with a number of its own can be put into the queue. -/
theorem Sound.schedule {t : LiveTable} (s : Sound t) {d : Deadline} (hlt : d.sequence < t.sequence)
    (hnew : ∀ e ∈ t.queue, d.sequence ≠ e.sequence)
    (howner : ∀ e ∈ t.entries, e.2.sequence = d.sequence → e.1 = d.id) :
    Sound { t with queue := d.insert t.queue } where
  ids := s.ids
  numbers := s.numbers
  numberLt := s.numberLt
  slotsNodup := s.slotsNodup
  slotLt := s.slotLt
  current := s.current
  clean := s.clean
  room := s.room
  queueLt e he := by
    rcases Deadline.mem_insert.mp he with rfl | he
    · exact hlt
    · exact s.queueLt e he
  queueNodup := by
    refine (((Deadline.insert_perm d t.queue).map Deadline.sequence).nodup_iff).mpr ?_
    rw [List.map_cons, List.nodup_cons]
    refine ⟨fun hmem => ?_, s.queueNodup⟩
    obtain ⟨e, he, hnum⟩ := List.mem_map.mp hmem
    exact hnew e he hnum.symm
  owner e he := by
    rcases Deadline.mem_insert.mp he with rfl | he
    · exact howner
    · exact s.owner e he
  ordered hclear :=
    Deadline.pairwise_insert hclear hnew
      (s.ordered fun e he => hclear e (Deadline.mem_insert.mpr (Or.inr he)))

/-! ### The operations -/

/-- A retrieval that is live keeps its entry. -/
theorem enter_some {t : LiveTable} {now : Binary64} {id : Uuid} {entry : LiveEntry}
    (h : t.live? id = some entry) : t.enter now id = (.ok entry.handle, t) := by
  unfold enter
  rw [h]

/-- Without a deadline the entry is made all the same. -/
theorem enter_error {t : LiveTable} {now : Binary64} {id : Uuid} (h : t.live? id = none)
    {error : ArithmeticError} (hd : t.deadline now = .error error) :
    t.enter now id = (.error error, (t.insert id).2) := by
  unfold enter
  rw [h, hd]

theorem enter_none {t : LiveTable} {now : Binary64} {id : Uuid} (h : t.live? id = none)
    {time : Binary64} (hd : t.deadline now = .ok time) :
    t.enter now id
      = (.ok (t.insert id).1,
         { (t.insert id).2 with queue := Deadline.insert ⟨time, t.sequence, id⟩ t.queue }) := by
  unfold enter
  rw [h, hd]
  rfl

/-- Finishing a retrieval that is live removes its entry and gives its slot back. -/
theorem finish_some {t : LiveTable} {id : Uuid} {entry : LiveEntry} (h : t.live? id = some entry) :
    t.finish id
      = (some (t.progress entry.handle), ((t.removeEntry id).retire entry).2) := by
  unfold finish
  rw [h]
  rfl

theorem finish_none {t : LiveTable} {id : Uuid} (h : t.live? id = none) :
    t.finish id = (none, t) := by
  unfold finish
  rw [h]

namespace Sound

variable {t : LiveTable}

/-- The slot of a removed entry is neither live nor waiting. -/
theorem slot_of_removed (s : Sound t) {p : Uuid × LiveEntry → Bool} {e : Uuid × LiveEntry}
    (he : e ∈ t.entries) (hp : p e = false) :
    e.2.handle.slot ∉ { t with entries := t.entries.filter p }.liveSlots ++ t.pool.free := by
  intro hmem
  rcases List.mem_append.mp hmem with hmem | hmem
  · obtain ⟨e', he', hslot⟩ := List.mem_map.mp hmem
    obtain ⟨hin, hp'⟩ := List.mem_filter.mp he'
    rw [s.eq_of_slot hin he hslot, hp] at hp'
    cases hp'
  · exact s.liveSlot_not_free he hmem

theorem enter (s : Sound t) (now : Binary64) (id : Uuid) : Sound (t.enter now id).2 := by
  cases h : t.live? id with
  | some entry => rw [enter_some h]; exact s
  | none =>
      cases hd : t.deadline now with
      | error error => rw [enter_error h hd]; exact s.insert h
      | ok time =>
          rw [enter_none h hd]
          refine (s.insert h).schedule (Nat.lt_succ_self _)
            (fun e he => Nat.ne_of_gt (s.queueLt e he)) fun e he hnum => ?_
          rw [insert_entries] at he
          rcases List.mem_append.mp he with he | he
          · exact absurd hnum (Nat.ne_of_lt (s.numberLt e he))
          · rw [List.mem_singleton.mp he]

/-- A handle that is given out is the handle of the entry. -/
theorem mem_enter (s : Sound t) (now : Binary64) (id : Uuid) {h : Handle}
    (hh : (t.enter now id).1 = .ok h) : ∃ n, (id, ⟨h, n⟩) ∈ (t.enter now id).2.entries := by
  cases hlive : t.live? id with
  | some entry =>
      rw [enter_some hlive] at hh ⊢
      cases hh
      exact ⟨_, (live?_eq_some_iff s.ids).mp hlive⟩
  | none =>
      cases hd : t.deadline now with
      | error error => rw [enter_error hlive hd] at hh; cases hh
      | ok time =>
          rw [enter_none hlive hd] at hh ⊢
          cases hh
          exact ⟨t.sequence, List.mem_append_right _ (List.mem_singleton.mpr rfl)⟩

theorem finish (s : Sound t) (id : Uuid) : Sound (t.finish id).2 := by
  cases h : t.live? id with
  | none => rw [finish_none h]; exact s
  | some entry =>
      rw [finish_some h]
      have hmem := (live?_eq_some_iff s.ids).mp h
      exact (s.removeEntry id).retire
        (s.slot_of_removed (p := fun e => e.1 ≠ id) hmem (by simp)) (s.liveSlot_lt hmem)

/-- A write goes to the slot of a live entry, or it changes nothing. -/
theorem write (s : Sound t) {h : Handle}
    (hh : (∃ e ∈ t.entries, e.2.handle = h) ∨ t.slots.isCurrent h = false) (m : Mark) :
    Sound (t.write h m).2 where
  ids := s.ids
  numbers := s.numbers
  numberLt := s.numberLt
  slotsNodup := s.slotsNodup
  slotLt i hi := by
    show i < (t.slots.write h m).2.size
    rw [Slots.size_write]
    exact s.slotLt i hi
  current e he := (Slots.isCurrent_write ..).trans (s.current e he)
  clean i hi := by
    show ((t.slots.write h m).2.slot i).progress = _
    rcases hh with ⟨e, he, rfl⟩ | hlate
    · have hne : e.2.handle.slot ≠ i := fun hc => s.liveSlot_not_free he (hc ▸ hi)
      rw [Slots.slot_write_ne hne]
      exact s.clean i hi
    · rw [Slots.write_late hlate]
      exact s.clean i hi
  room := s.room
  queueLt := s.queueLt
  queueNodup := s.queueNodup
  owner := s.owner
  ordered := s.ordered

end Sound

end LiveTable

end RetrievalTelemetry
