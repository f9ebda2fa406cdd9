/-
Reading a live table as a plain one.

`plain` forgets slots, epochs and the queue: of an entry it keeps the number, what stands in its
slot and the time of its deadline.  Each operation of a sound table then does to the plain
table what the plain operation of the same name does, and answers the same.

The operations on a plain table reach a record by its number, those on a live table by a handle.
The lemmas of this file are about handles of live entries; that all others are harmless is
the business of `Proofs/Live/Handles.lean`.
-/
import Mathlib.Data.Prod.Lex
import RetrievalTelemetry.Proofs.Live.Plain

namespace RetrievalTelemetry

/-! ### The order of expiry -/

namespace PlainRecord

/-- Where a record stands in the order of expiry. -/
private def key (r : PlainRecord) : WithBot (WithTop Rat) ×ₗ Nat :=
  toLex (r.deadline.rank, r.number)

theorem comesBefore_iff {a b : PlainRecord} (ha : a.deadline.isNaN = false)
    (hb : b.deadline.isNaN = false) : a.comesBefore b = true ↔ a.key ≤ b.key := by
  unfold comesBefore key
  rw [Prod.Lex.toLex_le_toLex, Bool.or_eq_true, Bool.and_eq_true, Binary64.lt_iff ha hb,
    Binary64.eq_iff ha hb, decide_eq_true_eq]

/-- Sorting records with deadlines puts them in the order of expiry. -/
theorem pairwise_mergeSort {l : List PlainRecord} (h : ∀ r ∈ l, r.deadline.isNaN = false) :
    (l.mergeSort comesBefore).Pairwise fun a b => a.comesBefore b = true := by
  have hkeys : l.mergeSort comesBefore = l.mergeSort fun a b => decide (a.key ≤ b.key) := by
    rw [← List.map_id (l.mergeSort comesBefore),
      List.map_mergeSort (s := fun a b => decide (a.key ≤ b.key)), List.map_id]
    intro a ha b hb
    rw [Bool.eq_iff_iff, comesBefore_iff (h a ha) (h b hb), decide_eq_true_eq]
    rfl
  have hsorted : (l.mergeSort fun a b => decide (a.key ≤ b.key)).Pairwise
      fun a b => decide (a.key ≤ b.key) = true :=
    List.pairwise_mergeSort
      (fun a b c hab hbc => by
        simp only [decide_eq_true_eq] at hab hbc ⊢
        exact hab.trans hbc)
      (fun a b => by simpa using le_total a.key b.key) l
  rw [hkeys]
  refine hsorted.imp_of_mem fun ha hb hab => ?_
  rw [List.mem_mergeSort] at ha hb
  exact (comesBefore_iff (h _ ha) (h _ hb)).mpr (by simpa using hab)

/-- Two records that come before each other have the same number. -/
theorem number_eq_of_comesBefore {a b : PlainRecord} (ha : a.deadline.isNaN = false)
    (hb : b.deadline.isNaN = false) (hab : a.comesBefore b = true) (hba : b.comesBefore a = true) :
    a.number = b.number := by
  have hkey := le_antisymm ((comesBefore_iff ha hb).mp hab) ((comesBefore_iff hb ha).mp hba)
  exact (Prod.mk.inj (toLex.injective hkey)).2

end PlainRecord

namespace LiveTable

/-- What a live table knows of an entry. -/
def record (t : LiveTable) (e : Uuid × LiveEntry) : PlainRecord where
  number := e.2.sequence
  id := e.1
  deadline := Deadline.timeOf t.queue e.2.sequence
  progress := t.progress e.2.handle

/-- A live table without its machinery. -/
def plain (t : LiveTable) : PlainTable where
  records := t.entries.map t.record
  created := t.sequence
  expiredTotal := t.expiredTotal

theorem size_plain (t : LiveTable) : t.plain.size = t.size := by
  simp [plain, PlainTable.size, size]

namespace Sound

variable {t : LiveTable}

theorem record_mem {e : Uuid × LiveEntry} (he : e ∈ t.entries) : t.record e ∈ t.plain.records :=
  List.mem_map_of_mem he

theorem ids_plain (s : Sound t) : (t.plain.records.map PlainRecord.id).Nodup := by
  simpa [plain, record, Function.comp_def] using s.ids

theorem numbers_plain (s : Sound t) : (t.plain.records.map PlainRecord.number).Nodup := by
  have := List.pairwise_map.mpr (s.numbers.imp Nat.ne_of_lt)
  simpa [plain, record, Function.comp_def, List.Nodup] using this

theorem record?_plain (s : Sound t) (id : Uuid) :
    t.plain.record? id = (t.live? id).map fun entry => t.record (id, entry) := by
  unfold PlainTable.record?
  cases h : t.live? id with
  | none =>
      refine find?_key_eq_none.mpr fun r hr => ?_
      obtain ⟨e, he, rfl⟩ := List.mem_map.mp hr
      exact live?_eq_none_iff.mp h e he
  | some entry =>
      have hmem := record_mem ((live?_eq_some_iff s.ids).mp h)
      exact find?_key_of_mem s.ids_plain hmem

theorem contains_plain (s : Sound t) (id : Uuid) : t.plain.contains id = t.contains id := by
  rw [PlainTable.contains, s.record?_plain, Option.isSome_map, LiveTable.contains]

theorem numbered?_plain (s : Sound t) {e : Uuid × LiveEntry} (he : e ∈ t.entries) :
    t.plain.numbered? e.2.sequence = some (t.record e) :=
  find?_key_of_mem s.numbers_plain (record_mem he)

theorem numbered?_plain_none {n : Nat} (h : ∀ e ∈ t.entries, e.2.sequence ≠ n) :
    t.plain.numbered? n = none := by
  refine find?_key_eq_none.mpr fun r hr => ?_
  obtain ⟨e, he, rfl⟩ := List.mem_map.mp hr
  exact h e he

/-! ### Entering -/

/-- A new entry is read as a new record, with the deadline that the queue has for it. -/
theorem plain_insert (s : Sound t) (id : Uuid) (queue : List Deadline)
    (hold : ∀ e ∈ t.entries, Deadline.timeOf queue e.2.sequence
      = Deadline.timeOf t.queue e.2.sequence) :
    LiveTable.plain { (t.insert id).2 with queue := queue }
      = t.plain.insert id (Deadline.timeOf queue t.sequence) := by
  have hnew : LiveTable.record { (t.insert id).2 with queue := queue }
        (id, ⟨(t.insert id).1, t.sequence⟩)
      = { number := t.sequence, id := id, deadline := Deadline.timeOf queue t.sequence } := by
    unfold record progress
    rw [slot_insert, s.progress_insert id]
  have hrest : t.entries.map (LiveTable.record { (t.insert id).2 with queue := queue })
      = t.entries.map t.record :=
    List.map_congr_left fun e he => by
      unfold record progress
      rw [slot_insert, hold e he]
  unfold plain PlainTable.insert
  rw [insert_entries, List.map_append, List.map_singleton, hnew, hrest]
  rfl

theorem timeOf_sequence (s : Sound t) : Deadline.timeOf t.queue t.sequence = .nan :=
  Deadline.timeOf_of_not_mem fun d hd => Nat.ne_of_lt (s.queueLt d hd)

theorem schedule_nodup (s : Sound t) (id : Uuid) (time : Binary64) :
    ((Deadline.insert ⟨time, t.sequence, id⟩ t.queue).map Deadline.sequence).Nodup := by
  refine (((Deadline.insert_perm _ t.queue).map Deadline.sequence).nodup_iff).mpr ?_
  rw [List.map_cons, List.nodup_cons]
  refine ⟨fun hmem => ?_, s.queueNodup⟩
  obtain ⟨d, hd, hnum⟩ := List.mem_map.mp hmem
  exact Nat.lt_irrefl _ (hnum ▸ s.queueLt d hd)

/-- With a lifetime, entering gives the handle of the record that the plain table names. -/
theorem enter_plain (s : Sound t) {lifetime : Binary64}
    (hlifetime : t.timeout.toDouble? = some lifetime) (now : Binary64) (id : Uuid) :
    (t.enter now id).2.plain = (t.plain.enter lifetime now id).2 ∧
      ∃ h, (t.enter now id).1 = .ok h ∧
        (id, ⟨h, (t.plain.enter lifetime now id).1⟩) ∈ (t.enter now id).2.entries := by
  unfold PlainTable.enter
  rw [s.record?_plain]
  cases h : t.live? id with
  | some entry =>
      rw [enter_some h]
      exact ⟨rfl, entry.handle, rfl, (live?_eq_some_iff s.ids).mp h⟩
  | none =>
      have hdeadline : t.deadline now = .ok (now.add lifetime) := by rw [deadline, hlifetime]
      rw [enter_none h hdeadline]
      have hnodup := s.schedule_nodup id (now.add lifetime)
      have hplain := s.plain_insert id
        (Deadline.insert ⟨now.add lifetime, t.sequence, id⟩ t.queue) fun e he => by
          rw [Deadline.timeOf_insert hnodup, if_neg (Nat.ne_of_lt (s.numberLt e he))]
      rw [Deadline.timeOf_insert hnodup, if_pos rfl] at hplain
      exact ⟨hplain, _, rfl, List.mem_append_right _ (List.mem_singleton.mpr rfl)⟩

/-- Without a lifetime there is no handle, and the record of a new entry never expires. -/
theorem enter_plain_unscheduled (s : Sound t) (hlifetime : t.timeout.toDouble? = none)
    {id : Uuid} (h : t.live? id = none) (now : Binary64) :
    (t.enter now id).2.plain = t.plain.insert id .nan ∧
      (t.enter now id).1 = .error .tooLarge := by
  have hdeadline : t.deadline now = .error .tooLarge := by rw [deadline, hlifetime]
  rw [enter_error h hdeadline]
  have hplain := s.plain_insert id t.queue fun _ _ => rfl
  rw [s.timeOf_sequence] at hplain
  exact ⟨hplain, rfl⟩

/-! ### Writing -/

/-- The handle of a live entry writes to its record. -/
theorem write_plain (s : Sound t) {e : Uuid × LiveEntry} (he : e ∈ t.entries) (m : Mark) :
    (t.write e.2.handle m).1 = (t.plain.write e.2.sequence m).1 ∧
      (t.write e.2.handle m).2.plain = (t.plain.write e.2.sequence m).2 := by
  have hwrite := Slots.write_current (s.current e he) m
  unfold PlainTable.write
  rw [s.numbered?_plain he]
  refine ⟨congrArg Prod.fst hwrite, ?_⟩
  -- The entry with the number is the only one that sees the write.
  have hrecord : ∀ f ∈ t.entries, (t.write e.2.handle m).2.record f
      = if (t.record f).number = e.2.sequence then
          { t.record f with progress := ((t.record f).progress.mark m).2 }
        else t.record f := by
    intro f hf
    split
    · rename_i hnum
      rw [s.eq_of_sequence hf he hnum]
      have hself := Slots.slot_write_self (s.current e he) (s.liveSlot_lt he) m
      show PlainRecord.mk _ _ _ _ = _
      rw [progress, LiveTable.write, hself]
      rfl
    · rename_i hnum
      have hne : e.2.handle.slot ≠ f.2.handle.slot := fun h =>
        hnum (congrArg (fun g => g.2.sequence) (s.eq_of_slot hf he h.symm))
      show PlainRecord.mk _ _ _ _ = _
      rw [progress, LiveTable.write, Slots.slot_write_ne hne]
      rfl
  have hrecords : t.entries.map (t.write e.2.handle m).2.record
      = (t.entries.map t.record).map fun r =>
          if r.number = e.2.sequence then { r with progress := (r.progress.mark m).2 } else r := by
    rw [List.map_map]
    exact List.map_congr_left hrecord
  show PlainTable.mk _ _ _ = _
  exact congrArg (fun records => PlainTable.mk records t.sequence t.expiredTotal) hrecords

theorem startTime_plain (s : Sound t) {e : Uuid × LiveEntry} (he : e ∈ t.entries) :
    t.startTime e.2.handle = t.plain.startTime e.2.sequence := by
  rw [PlainTable.startTime, s.numbered?_plain he, LiveTable.startTime, Slots.startTime,
    if_pos (s.current e he)]
  rfl

/-! ### Finishing -/

theorem finish_plain (s : Sound t) (id : Uuid) :
    (t.finish id).1 = (t.plain.finish id).1 ∧
      (t.finish id).2.plain = (t.plain.finish id).2 := by
  unfold PlainTable.finish
  rw [s.record?_plain]
  cases h : t.live? id with
  | none =>
      rw [finish_none h]
      exact ⟨rfl, rfl⟩
  | some entry =>
      rw [finish_some h]
      refine ⟨rfl, ?_⟩
      have hmem := (live?_eq_some_iff s.ids).mp h
      have hrecords : (t.entries.filter fun e => e.1 ≠ id).map
            ((t.removeEntry id).retire entry).2.record
          = (t.entries.map t.record).filter fun r => r.id ≠ id := by
        rw [List.filter_map]
        refine List.map_congr_left fun f hf => ?_
        obtain ⟨hin, hid⟩ := List.mem_filter.mp hf
        have hne : entry.handle.slot ≠ f.2.handle.slot := fun hslot => by
          have hsame := s.eq_of_slot hin hmem hslot.symm
          simp [hsame] at hid
        show PlainRecord.mk _ _ _ _ = _
        rw [progress, slot_retire_ne hne]
        rfl
      show PlainTable.mk _ _ _ = _
      exact congrArg (fun records => PlainTable.mk records t.sequence t.expiredTotal) hrecords

/-! ### Expiring -/

/-- The entries whose number a due deadline carries are those whose record is due. -/
theorem isNumbered_dueFront (s : Sound t) {now : Binary64}
    (hdue : Deadline.Clear t.queue ∨ ∀ d ∈ t.queue, d.time.le now = false)
    (e : Uuid × LiveEntry) :
    isNumbered (t.dueFront now) e = (t.record e).isDue now := by
  rw [Bool.eq_iff_iff, isNumbered_iff, dueFront, (Deadline.due_prefix s.ordered hdue).1]
  show _ ↔ (Deadline.timeOf t.queue e.2.sequence).le now = true
  rw [Deadline.le_timeOf_iff s.queueNodup]
  simp only [List.mem_filter, and_assoc]

/-- The records of the expiring entries are in the order of expiry. -/
theorem pairwise_expiring (s : Sound t) (hclear : Deadline.Clear t.queue) (now : Binary64) :
    ((t.expiring now).map t.record).Pairwise fun a b => a.comesBefore b = true := by
  have hsorted : (t.dueFront now).Pairwise fun a b => a.isBefore b = true :=
    (s.ordered hclear).sublist (List.takeWhile_sublist _)
  rw [List.pairwise_map]
  refine List.pairwise_filterMap.mpr (hsorted.imp_of_mem ?_)
  intro d d' hd hd' hbefore e he e' he'
  have hmem := dueFront_mem hd
  have hmem' := dueFront_mem hd'
  rw [claim_eq_some_iff s.ids (s.owner _ hmem)] at he
  rw [claim_eq_some_iff s.ids (s.owner _ hmem')] at he'
  have htime : (t.record e).deadline = d.time := by
    rw [record, he.2, Deadline.timeOf_of_mem s.queueNodup hmem]
  have htime' : (t.record e').deadline = d'.time := by
    rw [record, he'.2, Deadline.timeOf_of_mem s.queueNodup hmem']
  unfold PlainRecord.comesBefore
  rw [htime, htime']
  show (_ || (_ && decide (e.2.sequence ≤ e'.2.sequence))) = true
  rw [he.2, he'.2]
  unfold Deadline.isBefore at hbefore
  split at hbefore
  · rename_i heq
    have hle : d.sequence ≤ d'.sequence := Nat.le_of_lt (by simpa using hbefore)
    simp [heq, hle]
  · simp [hbefore]

/-- The entries that expire are the due records, in the order of expiry. -/
theorem expiring_plain (s : Sound t) {now : Binary64}
    (hdue : Deadline.Clear t.queue ∨ ∀ d ∈ t.queue, d.time.le now = false) :
    (t.expiring now).map t.record
      = (t.plain.records.filter (PlainRecord.isDue now)).mergeSort PlainRecord.comesBefore := by
  have hperm : ((t.expiring now).map t.record).Perm
      (t.plain.records.filter (PlainRecord.isDue now)) := by
    have hfilter : t.plain.records.filter (PlainRecord.isDue now)
        = (t.entries.filter (isNumbered (t.dueFront now))).map t.record := by
      rw [show t.plain.records = t.entries.map t.record from rfl, List.filter_map]
      refine congrArg (List.map t.record) (List.filter_congr fun e _ => ?_)
      exact (s.isNumbered_dueFront hdue e).symm
    rw [hfilter]
    exact (s.expiring_perm now).map _
  have hperm' := hperm.trans (List.mergeSort_perm _ PlainRecord.comesBefore).symm
  have hno : ∀ r ∈ t.plain.records.filter (PlainRecord.isDue now), r.deadline.isNaN = false :=
    fun r hr => (Binary64.not_isNaN_of_le (List.mem_filter.mp hr).2).1
  rcases hdue with hclear | hnone
  · refine hperm'.eq_of_pairwise (fun a b ha hb hab hba => ?_)
      (s.pairwise_expiring hclear now) (PlainRecord.pairwise_mergeSort hno)
    have ha := hperm.mem_iff.mp ha
    have hb := List.mem_mergeSort.mp hb
    exact List.inj_on_of_nodup_map s.numbers_plain (List.mem_of_mem_filter ha)
      (List.mem_of_mem_filter hb)
      (PlainRecord.number_eq_of_comesBefore (hno a ha) (hno b hb) hab hba)
  · have hempty : t.expiring now = [] := by
      rw [expiring, dueFront, (Deadline.due_prefix s.ordered (Or.inr hnone)).1,
        List.filter_eq_nil_iff.mpr (by simpa using hnone)]
      rfl
    rw [hempty] at hperm' ⊢
    exact hperm'.symm.eq_nil.symm

/-- An expiry removes the due records and tells of them in the order of expiry. -/
theorem expire_plain (s : Sound t) {now : Binary64}
    (hdue : Deadline.Clear t.queue ∨ ∀ d ∈ t.queue, d.time.le now = false) :
    (t.expire now).1 = (t.plain.expire now).1 ∧
      (t.expire now).2.plain = (t.plain.expire now).2 := by
  have hexpiring := s.expiring_plain hdue
  have hrecords : (t.expire now).2.entries.map (t.expire now).2.record
      = (t.entries.map t.record).filter fun r => !r.isDue now := by
    rw [s.expire_entries, List.filter_map]
    have hkept : (t.entries.filter fun e => !isNumbered (t.dueFront now) e)
        = t.entries.filter ((fun r => !r.isDue now) ∘ t.record) :=
      List.filter_congr fun e _ => by rw [s.isNumbered_dueFront hdue]; rfl
    rw [hkept]
    refine List.map_congr_left fun e he => ?_
    have hin : e ∈ (t.expire now).2.entries := by rw [s.expire_entries, hkept]; exact he
    have htime : (t.record e).isDue now = false := by
      simpa using (List.mem_filter.mp he).2
    show PlainRecord.mk _ _ _ _ = _
    rw [s.progress_expire now hin, s.expire_frame now]
    show PlainRecord.mk _ _ (Deadline.timeOf (t.queue.dropWhile _) _) _ = _
    rw [(Deadline.due_prefix s.ordered hdue).2, Deadline.timeOf_filter s.queueNodup htime]
    rfl
  constructor
  · rw [s.expire_fst, PlainTable.expire, ← hexpiring, List.map_map]
    rfl
  · have hlength : (t.expiring now).length
        = ((t.plain.records.filter (PlainRecord.isDue now)).mergeSort
            PlainRecord.comesBefore).length := by
      rw [← hexpiring, List.length_map]
    rw [PlainTable.expire, ← hlength]
    show PlainTable.mk ((t.expire now).2.entries.map (t.expire now).2.record) _ _ = _
    rw [hrecords, s.expire_frame now]
    rfl

end Sound

end LiveTable

end RetrievalTelemetry
