/-
What an expiry removes.

An expiry walks along the due deadlines and removes the entry of each, if that is still the
entry the deadline was made for.  The walk changes the table under its own feet, so the first
thing to show is that it does not matter: `removeDue_eq` says that the walk removes the entries
that the due deadlines claim in the table it started from.  Two deadlines never claim the same
entry, because numbers are given once.

Giving back the slots afterwards does not touch what the other removed entries know, since
their slots are different ones.
-/
import Mathlib.Data.List.TakeWhile
import RetrievalTelemetry.Proofs.Live.Sound

namespace RetrievalTelemetry

/-- What a listener has heard after it was told of retrievals in order. -/
def Listener.hear {σ : Type} (listener : Option (Listener σ)) (state : σ)
    (expired : List (Uuid × Progress)) : σ :=
  match listener with
  | none => state
  | some tell => expired.foldl (fun heard e => (tell e.1 e.2 heard).2) state

namespace LiveTable

/-- The live entry that a deadline was made for. -/
def claim (t : LiveTable) (d : Deadline) : Option (Uuid × LiveEntry) :=
  (t.live? d.id).bind fun entry => if entry.sequence = d.sequence then some (d.id, entry) else none

/-- The due deadlines at the front of the queue. -/
def dueFront (t : LiveTable) (now : Binary64) : List Deadline :=
  t.queue.takeWhile fun d => d.time.le now

/-- Whether one of the deadlines carries the number of an entry. -/
def isNumbered (due : List Deadline) (e : Uuid × LiveEntry) : Bool :=
  due.any fun d => d.sequence == e.2.sequence

theorem isNumbered_iff {due : List Deadline} {e : Uuid × LiveEntry} :
    isNumbered due e = true ↔ ∃ d ∈ due, d.sequence = e.2.sequence := by
  simp [isNumbered]

theorem claim_eq_some_iff {t : LiveTable} (ids : (t.entries.map fun e => e.1).Nodup) {d : Deadline}
    (owner : ∀ e ∈ t.entries, e.2.sequence = d.sequence → e.1 = d.id) {e : Uuid × LiveEntry} :
    t.claim d = some e ↔ e ∈ t.entries ∧ e.2.sequence = d.sequence := by
  unfold claim
  rw [Option.bind_eq_some_iff]
  constructor
  · rintro ⟨entry, hentry, h⟩
    split at h
    · rename_i hnum
      cases h
      exact ⟨(live?_eq_some_iff ids).mp hentry, hnum⟩
    · cases h
  · rintro ⟨he, hnum⟩
    obtain ⟨id, entry⟩ := e
    have hid : id = d.id := owner _ he hnum
    refine ⟨entry, (live?_eq_some_iff ids).mpr (hid ▸ he), ?_⟩
    rw [if_pos hnum, hid]

theorem live?_removeEntry {t : LiveTable} (ids : (t.entries.map fun e => e.1).Nodup)
    (id id' : Uuid) :
    (t.removeEntry id).live? id' = if id' = id then none else t.live? id' := by
  split
  · rename_i h
    refine live?_eq_none_iff.mpr fun e he => ?_
    rw [h]
    simpa using (List.mem_filter.mp he).2
  · rename_i h
    have ids' : ((t.removeEntry id).entries.map fun e => e.1).Nodup :=
      ids.sublist (List.filter_sublist.map _)
    refine Option.ext fun entry => ?_
    rw [live?_eq_some_iff ids', live?_eq_some_iff ids]
    simp [removeEntry, h]

theorem removeDue_of_claim_none {t : LiveTable} {d : Deadline} (h : t.claim d = none)
    (rest : List Deadline) : t.removeDue (d :: rest) = t.removeDue rest := by
  unfold claim at h
  rw [removeDue]
  cases hentry : t.live? d.id with
  | none => rfl
  | some entry =>
      rw [hentry, Option.bind_some] at h
      split at h
      · cases h
      · rename_i hnum
        simp only [if_neg hnum]

theorem removeDue_of_claim_some {t : LiveTable} {d : Deadline} {e : Uuid × LiveEntry}
    (h : t.claim d = some e) (rest : List Deadline) :
    t.removeDue (d :: rest)
      = (e :: ((t.removeEntry d.id).removeDue rest).1,
         ((t.removeEntry d.id).removeDue rest).2) := by
  unfold claim at h
  rw [removeDue]
  cases hentry : t.live? d.id with
  | none => simp [hentry] at h
  | some entry =>
      rw [hentry, Option.bind_some] at h
      split at h
      · rename_i hnum
        cases h
        simp only [if_pos hnum]
      · cases h

/-- Removing an entry takes nothing from a deadline with another number. -/
theorem claim_removeEntry {t : LiveTable} (ids : (t.entries.map fun e => e.1).Nodup)
    {d d' : Deadline} {e : Uuid × LiveEntry} (h : t.claim d = some e)
    (hne : d.sequence ≠ d'.sequence) : (t.removeEntry d.id).claim d' = t.claim d' := by
  unfold claim at h ⊢
  rw [live?_removeEntry ids]
  split
  · rename_i hsame
    rw [hsame]
    obtain ⟨entry, hentry, hnum⟩ := Option.bind_eq_some_iff.mp h
    rw [hentry, Option.bind_none, Option.bind_some]
    split at hnum
    · rename_i hseq
      rw [if_neg (hseq ▸ hne)]
    · cases hnum
  · rfl

/-- The walk along the due deadlines removes what they claim at its start. -/
theorem removeDue_eq : ∀ (due : List Deadline) (t : LiveTable),
    (t.entries.map fun e => e.1).Nodup →
    (∀ d ∈ due, ∀ e ∈ t.entries, e.2.sequence = d.sequence → e.1 = d.id) →
    (due.map Deadline.sequence).Nodup →
    t.removeDue due
      = (due.filterMap t.claim,
         { t with entries := t.entries.filter fun e => !isNumbered due e }) := by
  intro due
  induction due with
  | nil =>
      intro t _ _ _
      simp [removeDue, isNumbered]
  | cons d rest ih =>
      intro t ids owner nodup
      rw [List.map_cons, List.nodup_cons] at nodup
      obtain ⟨hd, hrest⟩ := nodup
      have hownerD : ∀ e ∈ t.entries, e.2.sequence = d.sequence → e.1 = d.id :=
        owner d List.mem_cons_self
      have hownerRest : ∀ d' ∈ rest, ∀ e ∈ t.entries, e.2.sequence = d'.sequence → e.1 = d'.id :=
        fun d' hd' => owner d' (List.mem_cons_of_mem d hd')
      cases hclaim : t.claim d with
      | none =>
          have hnone : ∀ e ∈ t.entries, d.sequence ≠ e.2.sequence := by
            intro e he hnum
            rw [(claim_eq_some_iff ids hownerD).mpr ⟨he, hnum.symm⟩] at hclaim
            cases hclaim
          have hfilter : (t.entries.filter fun e => !isNumbered (d :: rest) e)
              = t.entries.filter fun e => !isNumbered rest e :=
            List.filter_congr fun e he => by simp [isNumbered, hnone e he]
          rw [removeDue_of_claim_none hclaim, ih t ids hownerRest hrest, List.filterMap_cons,
            hclaim, hfilter]
      | some e =>
          obtain ⟨hmem, hnum⟩ := (claim_eq_some_iff ids hownerD).mp hclaim
          have hclaims : rest.filterMap (t.removeEntry d.id).claim = rest.filterMap t.claim :=
            List.filterMap_congr fun d' hd' =>
              claim_removeEntry ids hclaim fun h => hd (h ▸ List.mem_map_of_mem hd')
          -- The entry of the deadline is the one with its id, and the one with its number.
          have hiff : ∀ f ∈ t.entries, f.1 = d.id ↔ d.sequence = f.2.sequence := by
            intro f hf
            constructor
            · intro h
              rw [List.inj_on_of_nodup_map ids hf hmem (h.trans (hownerD e hmem hnum).symm), hnum]
            · exact fun h => hownerD f hf h.symm
          have hfilter : ((t.removeEntry d.id).entries.filter fun f => !isNumbered rest f)
              = t.entries.filter fun f => !isNumbered (d :: rest) f := by
            rw [removeEntry, List.filter_filter]
            refine List.filter_congr fun f hf => ?_
            by_cases h : f.1 = d.id
            · simp [isNumbered, h, (hiff f hf).mp h]
            · simp [isNumbered, h, mt (hiff f hf).mpr h]
          rw [removeDue_of_claim_some hclaim,
            ih (t.removeEntry d.id) (ids.sublist (List.filter_sublist.map _))
              (fun d' hd' f hf => hownerRest d' hd' f (List.mem_of_mem_filter hf)) hrest,
            List.filterMap_cons, hclaim, hclaims, hfilter]
          rfl

/-! ### Giving back the slots -/

/-- Retiring touches the pool and the slots alone. -/
theorem retireAll_frame : ∀ (removed : List (Uuid × LiveEntry)) (t : LiveTable),
    (t.retireAll removed).2
      = { t with
          pool := (t.retireAll removed).2.pool
          slots := (t.retireAll removed).2.slots } := by
  intro removed
  induction removed with
  | nil => intro t; rfl
  | cons e rest ih => intro t; exact ih (t.retire e.2).2

theorem epoch_le_retireAll : ∀ (removed : List (Uuid × LiveEntry)) (t : LiveTable) (j : Nat),
    (t.slots.slot j).epoch ≤ ((t.retireAll removed).2.slots.slot j).epoch := by
  intro removed
  induction removed with
  | nil => intro t j; exact Nat.le_refl _
  | cons e rest ih =>
      intro t j
      exact (epoch_le_retire t e.2 j).trans (ih (t.retire e.2).2 j)

/-- A slot that none of the entries had stays as it is. -/
theorem slot_retireAll_ne : ∀ (removed : List (Uuid × LiveEntry)) (t : LiveTable) {j : Nat},
    (∀ e ∈ removed, e.2.handle.slot ≠ j) →
    (t.retireAll removed).2.slots.slot j = t.slots.slot j := by
  intro removed
  induction removed with
  | nil => intro t j _; rfl
  | cons e rest ih =>
      intro t j h
      exact (ih (t.retire e.2).2 fun f hf => h f (List.mem_cons_of_mem e hf)).trans
        (slot_retire_ne (h e List.mem_cons_self))

/-- Each retired entry gives what was known when the retiring began. -/
theorem retireAll_fst : ∀ (removed : List (Uuid × LiveEntry)) (t : LiveTable),
    (removed.map fun e => e.2.handle.slot).Nodup →
    (t.retireAll removed).1 = removed.map fun e => (e.1, t.progress e.2.handle) := by
  intro removed
  induction removed with
  | nil => intro t _; rfl
  | cons e rest ih =>
      intro t hnodup
      rw [List.map_cons, List.nodup_cons] at hnodup
      have hrest : (rest.map fun f => (f.1, (t.retire e.2).2.progress f.2.handle))
          = rest.map fun f => (f.1, t.progress f.2.handle) := by
        refine List.map_congr_left fun f hf => ?_
        have hne : e.2.handle.slot ≠ f.2.handle.slot := fun h =>
          hnodup.1 (List.mem_map.mpr ⟨f, hf, h.symm⟩)
        rw [progress, slot_retire_ne hne]
        rfl
      rw [List.map_cons, ← hrest, ← ih (t.retire e.2).2 hnodup.2]
      rfl

/-- Entries that are out of the list can all give back their slots. -/
theorem Sound.retireAll : ∀ (removed : List (Uuid × LiveEntry)) {t : LiveTable}, Sound t →
    (removed.map fun e => e.2.handle.slot).Nodup →
    (∀ e ∈ removed, e.2.handle.slot ∉ t.liveSlots ++ t.pool.free) →
    (∀ e ∈ removed, e.2.handle.slot < t.slots.size) → Sound (t.retireAll removed).2 := by
  intro removed
  induction removed with
  | nil => intro t s _ _ _; exact s
  | cons e rest ih =>
      intro t s hnodup hfree hlt
      rw [List.map_cons, List.nodup_cons] at hnodup
      refine ih (t := (t.retire e.2).2)
        (s.retire (hfree e List.mem_cons_self) (hlt e List.mem_cons_self)) hnodup.2
        (fun f hf => ?_) (fun f hf => ?_)
      · have hne : f.2.handle.slot ≠ e.2.handle.slot := fun h =>
          hnodup.1 (List.mem_map.mpr ⟨f, hf, h⟩)
        have hout := hfree f (List.mem_cons_of_mem e hf)
        rw [retire_liveSlots, retire_pool]
        split
        · intro hmem
          rcases List.mem_cons.mp (List.perm_middle.mem_iff.mp hmem) with h | h
          · exact hne h
          · exact hout h
        · exact hout
      · rw [retire_size]
        exact hlt f (List.mem_cons_of_mem e hf)

/-! ### A whole expiry -/

/-- The entries that an expiry removes, in the order of their deadlines. -/
def expiring (t : LiveTable) (now : Binary64) : List (Uuid × LiveEntry) :=
  (t.dueFront now).filterMap t.claim

/-- The table that has lost the expiring entries but not got back their slots. -/
def dropDue (t : LiveTable) (now : Binary64) : LiveTable :=
  { t with
    queue := t.queue.dropWhile fun d => d.time.le now
    entries := t.entries.filter fun e => !isNumbered (t.dueFront now) e
    expiredTotal := t.expiredTotal + (t.expiring now).length }

namespace Sound

variable {t : LiveTable}

theorem dueFront_mem {d : Deadline} {now : Binary64} (hd : d ∈ t.dueFront now) : d ∈ t.queue :=
  (List.takeWhile_sublist _).mem hd

theorem popDue_eq (s : Sound t) (now : Binary64) :
    t.popDue now = (t.expiring now, t.dropDue now) := by
  have hwalk := removeDue_eq (t.dueFront now)
    { t with queue := t.queue.dropWhile fun d => d.time.le now } s.ids
    (fun d hd => s.owner d (dueFront_mem hd))
    (s.queueNodup.sublist ((List.takeWhile_sublist _).map _))
  unfold popDue
  simp only
  rw [show (t.queue.takeWhile fun d => d.time.le now) = t.dueFront now from rfl, hwalk]
  rfl

theorem mem_expiring (s : Sound t) {now : Binary64} {e : Uuid × LiveEntry} :
    e ∈ t.expiring now ↔ e ∈ t.entries ∧ isNumbered (t.dueFront now) e = true := by
  rw [expiring, List.mem_filterMap, isNumbered_iff]
  constructor
  · rintro ⟨d, hd, h⟩
    obtain ⟨he, hnum⟩ := (claim_eq_some_iff s.ids (s.owner d (dueFront_mem hd))).mp h
    exact ⟨he, d, hd, hnum.symm⟩
  · rintro ⟨he, d, hd, hnum⟩
    exact ⟨d, hd, (claim_eq_some_iff s.ids (s.owner d (dueFront_mem hd))).mpr ⟨he, hnum.symm⟩⟩

/-- No entry is removed twice. -/
theorem expiring_nodup (s : Sound t) (now : Binary64) : (t.expiring now).Nodup := by
  have hnum : ((t.dueFront now).map Deadline.sequence).Nodup :=
    s.queueNodup.sublist ((List.takeWhile_sublist _).map _)
  refine List.pairwise_filterMap.mpr ((List.pairwise_map.mp hnum).imp_of_mem ?_)
  intro d d' hd hd' hne e he e' he' heq
  rw [claim_eq_some_iff s.ids (s.owner _ (dueFront_mem hd))] at he
  rw [claim_eq_some_iff s.ids (s.owner _ (dueFront_mem hd'))] at he'
  exact hne (by rw [← he.2, heq, he'.2])

/-- An expiry removes the entries whose number a due deadline carries, each once. -/
theorem expiring_perm (s : Sound t) (now : Binary64) :
    (t.expiring now).Perm (t.entries.filter (isNumbered (t.dueFront now))) := by
  refine (List.perm_ext_iff_of_nodup (s.expiring_nodup now) ?_).mpr fun e => ?_
  · exact (s.ids.of_map _).filter _
  · rw [s.mem_expiring, List.mem_filter]

theorem expiring_slots_nodup (s : Sound t) (now : Binary64) :
    ((t.expiring now).map fun e => e.2.handle.slot).Nodup :=
  (((s.expiring_perm now).map _).nodup_iff).mpr
    (s.liveSlots_nodup.sublist (List.filter_sublist.map _))

theorem expire_fst (s : Sound t) (now : Binary64) :
    (t.expire now).1 = (t.expiring now).map fun e => (e.1, t.progress e.2.handle) := by
  unfold LiveTable.expire
  rw [s.popDue_eq now]
  exact retireAll_fst _ _ (s.expiring_slots_nodup now)

theorem expire_snd (s : Sound t) (now : Binary64) :
    (t.expire now).2 = ((t.dropDue now).retireAll (t.expiring now)).2 := by
  unfold LiveTable.expire
  rw [s.popDue_eq now]

/-- The table after an expiry, but for the pool and the slots. -/
theorem expire_frame (s : Sound t) (now : Binary64) :
    (t.expire now).2
      = { t.dropDue now with
          pool := (t.expire now).2.pool
          slots := (t.expire now).2.slots } := by
  rw [s.expire_snd now]
  exact retireAll_frame _ _

theorem expire_entries (s : Sound t) (now : Binary64) :
    (t.expire now).2.entries = t.entries.filter fun e => !isNumbered (t.dueFront now) e := by
  rw [s.expire_frame]
  rfl

/-- What a live entry knows survives the expiry of others. -/
theorem progress_expire (s : Sound t) (now : Binary64) {e : Uuid × LiveEntry}
    (he : e ∈ (t.expire now).2.entries) :
    (t.expire now).2.progress e.2.handle = t.progress e.2.handle := by
  rw [s.expire_entries, List.mem_filter] at he
  unfold progress
  rw [s.expire_snd, slot_retireAll_ne]
  · rfl
  intro f hf hslot
  obtain ⟨hfin, hnum⟩ := s.mem_expiring.mp hf
  rw [s.eq_of_slot hfin he.1 hslot] at hnum
  simp [hnum] at he

/-- What is due at the front of the queue is no NaN. -/
theorem clear_of_clear_dropWhile {queue : List Deadline} {now : Binary64}
    (h : Deadline.Clear (queue.dropWhile fun d => d.time.le now)) : Deadline.Clear queue := by
  intro d hd
  rw [← List.takeWhile_append_dropWhile (p := fun d : Deadline => d.time.le now) (l := queue)] at hd
  rcases List.mem_append.mp hd with hd | hd
  · have hdue : d.time.le now = true :=
      List.mem_takeWhile_imp (p := fun d : Deadline => d.time.le now) hd
    exact (Binary64.not_isNaN_of_le hdue).1
  · exact h d hd

theorem dropDue (s : Sound t) (now : Binary64) : Sound (t.dropDue now) :=
  let s' := s.filter fun e => !isNumbered (t.dueFront now) e
  have hsub : (t.queue.dropWhile fun d => d.time.le now).Sublist t.queue :=
    List.dropWhile_sublist _
  { ids := s'.ids
    numbers := s'.numbers
    numberLt := s'.numberLt
    slotsNodup := s'.slotsNodup
    slotLt := s'.slotLt
    current := s'.current
    clean := s'.clean
    room := s'.room
    queueLt := fun d hd => s.queueLt d (hsub.mem hd)
    queueNodup := s.queueNodup.sublist (hsub.map _)
    owner := fun d hd => s'.owner d (hsub.mem hd)
    ordered := fun hclear => (s.ordered (clear_of_clear_dropWhile hclear)).sublist hsub }

theorem expire (s : Sound t) (now : Binary64) : Sound (t.expire now).2 := by
  rw [s.expire_snd]
  refine Sound.retireAll _ (s.dropDue now) (s.expiring_slots_nodup now) (fun e he => ?_)
    fun e he => ?_
  · obtain ⟨hin, hnum⟩ := s.mem_expiring.mp he
    exact s.slot_of_removed (p := fun e => !isNumbered (t.dueFront now) e) hin (by simp [hnum])
  · exact s.liveSlot_lt (s.mem_expiring.mp he).1

end Sound

/-! ### Listeners -/

/-- A listener hears of every entry in order and has no part in what becomes of the table,
whatever it throws. -/
theorem retireTelling_eq {σ : Type} (listener : Option (Listener σ)) :
    ∀ (removed : List (Uuid × LiveEntry)) (t : LiveTable) (state : σ),
      t.retireTelling listener state removed
        = (Listener.hear listener state (t.retireAll removed).1, (t.retireAll removed).2) := by
  intro removed
  induction removed with
  | nil => intro t state; cases listener <;> rfl
  | cons e rest ih =>
      intro t state
      cases listener with
      | none => exact ih (t.retire e.2).2 state
      | some tell =>
          have hstep : t.retireTelling (some tell) state (e :: rest)
              = (t.retire e.2).2.retireTelling (some tell)
                  (tell e.1 (t.retire e.2).1 state).2 rest := by
            rw [retireTelling]
            rcases htell : tell e.1 (t.retire e.2).1 state with ⟨_ | _, heard⟩ <;> simp [htell]
          rw [hstep, ih]
          rfl

theorem length_retireAll (removed : List (Uuid × LiveEntry)) :
    ∀ t : LiveTable, (t.retireAll removed).1.length = removed.length := by
  induction removed with
  | nil => intro t; rfl
  | cons e rest ih => intro t; exact congrArg (· + 1) (ih (t.retire e.2).2)

theorem expireTelling_eq {σ : Type} (t : LiveTable) (now : Binary64)
    (listener : Option (Listener σ)) (state : σ) :
    t.expireTelling now listener state
      = ((t.expire now).1.length, Listener.hear listener state (t.expire now).1,
         (t.expire now).2) := by
  unfold expireTelling expire
  simp only [retireTelling_eq, length_retireAll]

end LiveTable

end RetrievalTelemetry
