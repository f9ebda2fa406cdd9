/-
What a table knows of one retrieval.

The track of a retrieval is what a table knows of it: nothing, or when its time is up and its
progress.  Each operation changes the track of the retrieval it is called for, by what that track
alone says, and no other one; an expiry does to every track what it would do to it alone.  So the
track of a retrieval through a run can be computed without the table, from the steps that
concern it.

The plain table is the place to show this, because it has no slots that retrievals could share.
-/
import RetrievalTelemetry.Metric.Update
import RetrievalTelemetry.Proofs.Live.Reading

namespace RetrievalTelemetry

/-- What a table knows of one retrieval: when its time is up, and its progress. -/
abbrev Track := Option (Binary64 × Progress)

/-- What an expiry at the time `now` tells of a retrieval, and what it makes of its track. -/
def Track.expire (now : Binary64) : Track → List Update × Track
  | some (deadline, progress) =>
    if deadline.le now then ([.count .expired], none) else ([], some (deadline, progress))
  | none => ([], none)

/-! ### Tracks in a plain table -/

namespace PlainTable

def track (p : PlainTable) (id : Uuid) : Track :=
  (p.record? id).map fun r => (r.deadline, r.progress)

/-- Records are told apart by their retrievals and by their numbers. -/
structure Distinct (p : PlainTable) : Prop where
  ids : (p.records.map PlainRecord.id).Nodup
  numbers : (p.records.map PlainRecord.number).Nodup
  numberLt : ∀ r ∈ p.records, r.number < p.created

variable {p : PlainTable}

theorem mem_of_record? {id : Uuid} {r : PlainRecord} (h : p.record? id = some r) :
    r ∈ p.records ∧ r.id = id :=
  ⟨List.mem_of_find?_eq_some h, by simpa using List.find?_some h⟩

theorem track_eq_none_iff {id : Uuid} : p.track id = none ↔ p.record? id = none := by
  unfold track
  rw [Option.map_eq_none_iff]

theorem Distinct.track_of_mem (h : Distinct p) {r : PlainRecord} (hr : r ∈ p.records) :
    p.track r.id = some (r.deadline, r.progress) := by
  unfold track record?
  rw [find?_key_of_mem h.ids hr]
  rfl

theorem Distinct.insert (h : Distinct p) {id : Uuid} (hid : p.record? id = none)
    (deadline : Binary64) : Distinct (p.insert id deadline) where
  ids := by
    have hnew := find?_key_eq_none.mp hid
    show ((p.records ++ [_]).map PlainRecord.id).Nodup
    rw [List.map_append]
    refine List.nodup_append.mpr ⟨h.ids, List.nodup_singleton _, ?_⟩
    rintro a ha b hb rfl
    obtain ⟨r, hr, rfl⟩ := List.mem_map.mp ha
    exact hnew r hr (List.mem_singleton.mp hb)
  numbers := by
    show ((p.records ++ [_]).map PlainRecord.number).Nodup
    rw [List.map_append]
    refine List.nodup_append.mpr ⟨h.numbers, List.nodup_singleton _, ?_⟩
    rintro a ha b hb rfl
    obtain ⟨r, hr, rfl⟩ := List.mem_map.mp ha
    exact Nat.ne_of_lt (h.numberLt r hr) (List.mem_singleton.mp hb)
  numberLt r hr := by
    rcases List.mem_append.mp hr with hr | hr
    · exact Nat.lt_succ_of_lt (h.numberLt r hr)
    · rw [List.mem_singleton.mp hr]
      exact Nat.lt_succ_self _

theorem track_insert {id : Uuid} (hid : p.record? id = none) (deadline : Binary64) (id' : Uuid) :
    (p.insert id deadline).track id'
      = if id' = id then some (deadline, Progress.empty) else p.track id' := by
  unfold track record? insert
  rw [List.find?_append]
  split
  · rename_i h
    subst h
    rw [show p.records.find? (fun r => r.id == id') = none from hid]
    simp
  · rename_i h
    have hne : (id == id') = false := by simpa using Ne.symm h
    simp [hne]

/-- Changing records but not their retrievals changes what is found, not where. -/
theorem record?_map {f : PlainRecord → PlainRecord} (hf : ∀ r, (f r).id = r.id) (id : Uuid) :
    record? { p with records := p.records.map f } id = (p.record? id).map f := by
  unfold record?
  rw [List.find?_map]
  refine congrArg (Option.map f) (congrArg (fun g => p.records.find? g) ?_)
  funext r
  rw [Function.comp_apply, hf]

/-- A write changes the track of its own retrieval. -/
theorem Distinct.track_write (h : Distinct p) {r : PlainRecord} (hr : r ∈ p.records) (m : Mark)
    (id' : Uuid) :
    (p.write r.number m).2.track id'
      = if id' = r.id then some (r.deadline, (r.progress.mark m).2) else p.track id' := by
  have hnumber : p.numbered? r.number = some r := find?_key_of_mem h.numbers hr
  unfold track write
  rw [hnumber, record?_map fun q => by split <;> rfl]
  split
  · rename_i hid
    have hfound : p.record? id' = some r := hid ▸ find?_key_of_mem h.ids hr
    rw [hfound]
    simp
  · rename_i hid
    cases hfound : p.record? id' with
    | none => rfl
    | some q =>
        obtain ⟨hq, hqid⟩ := mem_of_record? hfound
        have hne : q.number ≠ r.number := fun hc => by
          rw [List.inj_on_of_nodup_map h.numbers hq hr hc] at hqid
          exact hid hqid.symm
        simp [hne]

/-- What is read after a write is what was written. -/
theorem Distinct.read_write (h : Distinct p) {r : PlainRecord} (hr : r ∈ p.records) (m : Mark) :
    (p.write r.number m).1 = (r.progress.mark m).1 ∧
      (p.write r.number m).2.startTime r.number = (r.progress.mark m).2.start := by
  have hnumber : p.numbered? r.number = some r := find?_key_of_mem h.numbers hr
  unfold startTime write
  rw [hnumber]
  refine ⟨rfl, ?_⟩
  have hfind : (numbered? { p with
      records := p.records.map fun q =>
        if q.number = r.number then { q with progress := (q.progress.mark m).2 } else q } r.number)
      = (p.numbered? r.number).map fun q =>
        if q.number = r.number then { q with progress := (q.progress.mark m).2 } else q := by
    unfold numbered?
    rw [List.find?_map]
    refine congrArg (Option.map _) (congrArg (fun g => p.records.find? g) ?_)
    funext q
    rw [Function.comp_apply]
    split <;> rfl
  rw [hfind, hnumber]
  simp

/-- The record of a retrieval when some records are dropped. -/
theorem Distinct.record?_filter (h : Distinct p) (keep : PlainRecord → Bool) (id : Uuid) :
    record? { p with records := p.records.filter keep } id = (p.record? id).filter keep := by
  have hsub : ((p.records.filter keep).map PlainRecord.id).Nodup :=
    h.ids.sublist (List.filter_sublist.map _)
  cases hfound : p.record? id with
  | none =>
      have hno := find?_key_eq_none.mp hfound
      exact find?_key_eq_none.mpr fun r hr => hno r (List.mem_of_mem_filter hr)
  | some r =>
      obtain ⟨hr, rfl⟩ := mem_of_record? hfound
      cases hkeep : keep r with
      | true =>
          rw [Option.filter_some_pos hkeep]
          exact find?_key_of_mem hsub (List.mem_filter.mpr ⟨hr, hkeep⟩)
      | false =>
          rw [Option.filter_some_neg hkeep]
          refine find?_key_eq_none.mpr fun q hq hid => ?_
          obtain ⟨hq, hkept⟩ := List.mem_filter.mp hq
          rw [List.inj_on_of_nodup_map h.ids hq hr hid, hkeep] at hkept
          cases hkept

theorem Distinct.track_finish (h : Distinct p) (id id' : Uuid) :
    (p.finish id).2.track id' = if id' = id then none else p.track id' := by
  cases hfound : p.record? id with
  | none =>
      have hfinish : p.finish id = (none, p) := by rw [finish, hfound]
      rw [hfinish]
      split
      · rename_i hid
        rw [hid]
        exact track_eq_none_iff.mpr hfound
      · rfl
  | some r =>
      have hfinish : (p.finish id).2
          = { p with records := p.records.filter fun r => r.id ≠ id } := by
        rw [finish, hfound]
      rw [hfinish, track, h.record?_filter]
      cases hfound' : p.record? id' with
      | none => simp [track, hfound']
      | some q =>
          have hid := (mem_of_record? hfound').2
          by_cases hsame : id' = id
          · simp [hid, hsame]
          · simp [hid, hsame, track, hfound']

/-- Of the due records, those of a retrieval are its own one, if that is due. -/
theorem Distinct.due_filter (h : Distinct p) (now : Binary64) {r : PlainRecord}
    (hr : r ∈ p.records) :
    (((p.records.filter (PlainRecord.isDue now)).mergeSort PlainRecord.comesBefore).filter
      fun q => q.id = r.id).Perm (if r.isDue now then [r] else []) := by
  have hnodup : (p.records.filter (PlainRecord.isDue now)).Nodup := (h.ids.of_map _).filter _
  refine (List.perm_ext_iff_of_nodup ?_ (by split <;> simp)).mpr fun q => ?_
  · exact ((List.mergeSort_perm _ _).nodup_iff.mpr hnodup).filter _
  · rw [List.mem_filter, List.mem_mergeSort, List.mem_filter]
    constructor
    · rintro ⟨⟨hq, hdue⟩, hid⟩
      obtain rfl := List.inj_on_of_nodup_map h.ids hq hr (by simpa using hid)
      simp [hdue]
    · intro hmem
      split at hmem
      · rename_i hdue
        rw [List.mem_singleton.mp hmem]
        exact ⟨⟨hr, hdue⟩, by simp⟩
      · cases hmem

/-- An expiry tells of a retrieval what its track says, and leaves the others. -/
theorem Distinct.track_expire (h : Distinct p) (now : Binary64) (id : Uuid) :
    (((p.expire now).1.filter fun e => e.1 = id).map fun _ => Update.count .expired)
        = (Track.expire now (p.track id)).1 ∧
      (p.expire now).2.track id = (Track.expire now (p.track id)).2 := by
  have hrecord : (p.expire now).2.record? id = (p.record? id).filter fun r => !r.isDue now :=
    h.record?_filter (fun r => !r.isDue now) id
  have hfilter : ((p.expire now).1.filter fun e => e.1 = id).map (fun _ => Update.count .expired)
      = (((p.records.filter (PlainRecord.isDue now)).mergeSort PlainRecord.comesBefore).filter
          fun q => q.id = id).map fun _ => Update.count .expired := by
    unfold expire
    rw [List.filter_map, List.map_map]
    rfl
  rw [hfilter]
  unfold track
  rw [hrecord]
  cases hfound : p.record? id with
  | none =>
      have hno := find?_key_eq_none.mp hfound
      rw [List.filter_eq_nil_iff.mpr]
      · exact ⟨rfl, rfl⟩
      · intro q hq
        rw [List.mem_mergeSort] at hq
        simpa using hno q (List.mem_of_mem_filter hq)
  | some r =>
      obtain ⟨hr, rfl⟩ := mem_of_record? hfound
      have hperm := (h.due_filter now hr).map fun _ => Update.count .expired
      cases hdue : r.isDue now with
      | true =>
          have hle : r.deadline.le now = true := hdue
          rw [if_pos hdue] at hperm
          rw [List.perm_singleton.mp hperm]
          simp [Track.expire, hdue, hle]
      | false =>
          have hle : r.deadline.le now = false := hdue
          rw [if_neg (by simp [hdue])] at hperm
          rw [hperm.eq_nil]
          simp [Track.expire, hdue, hle]

end PlainTable

/-! ### Tracks in a live table -/

namespace LiveTable

def track (t : LiveTable) (id : Uuid) : Track := t.plain.track id

namespace Sound

variable {t : LiveTable}

theorem distinct (s : Sound t) : PlainTable.Distinct t.plain where
  ids := s.ids_plain
  numbers := s.numbers_plain
  numberLt r hr := by
    obtain ⟨e, he, rfl⟩ := List.mem_map.mp hr
    exact s.numberLt e he

theorem track_of_live (s : Sound t) {id : Uuid} {entry : LiveEntry} (h : t.live? id = some entry) :
    t.track id = some ((t.record (id, entry)).deadline, (t.record (id, entry)).progress) :=
  s.distinct.track_of_mem (record_mem ((live?_eq_some_iff s.ids).mp h))

/-- A write through the handle of a live entry reads and changes the track of its retrieval. -/
theorem track_write (s : Sound t) {id : Uuid} {h : Handle} {n : Nat}
    (he : (id, ⟨h, n⟩) ∈ t.entries) (m : Mark) :
    ∃ deadline progress, t.track id = some (deadline, progress) ∧
      (t.write h m).1 = (progress.mark m).1 ∧
      (t.write h m).2.startTime h = (progress.mark m).2.start ∧
      ∀ id', (t.write h m).2.track id'
        = if id' = id then some (deadline, (progress.mark m).2) else t.track id' := by
  have hrecord := record_mem he
  obtain ⟨hanswer, hplain⟩ := s.write_plain he m
  obtain ⟨hread, hstart⟩ := s.distinct.read_write hrecord m
  have hsound := s.write (Or.inl ⟨_, he, rfl⟩) m
  refine ⟨_, _, s.distinct.track_of_mem hrecord, hanswer.trans hread, ?_, fun id' => ?_⟩
  · have htime := hsound.startTime_plain (e := (id, ⟨h, n⟩)) he
    rw [hplain] at htime
    exact htime.trans hstart
  · unfold track
    rw [hplain]
    exact s.distinct.track_write hrecord m id'

/-- The track of a retrieval that was entered, and whether there is a handle to write to it. -/
theorem track_enter (s : Sound t) (now : Binary64) (id : Uuid) :
    (∀ id' ≠ id, (t.enter now id).2.track id' = t.track id') ∧
      match t.track id, t.timeout.toDouble? with
      | some x, _ => (∃ h, (t.enter now id).1 = .ok h) ∧ (t.enter now id).2.track id = some x
      | none, some lifetime => (∃ h, (t.enter now id).1 = .ok h) ∧
          (t.enter now id).2.track id = some (now.add lifetime, Progress.empty)
      | none, none => (∃ error, (t.enter now id).1 = .error error) ∧
          (t.enter now id).2.track id = some (.nan, Progress.empty) := by
  cases hlive : t.live? id with
  | some entry =>
      rw [enter_some hlive, s.track_of_live hlive]
      exact ⟨fun id' _ => rfl, ⟨_, rfl⟩, rfl⟩
  | none =>
      have hfound : t.plain.record? id = none := by rw [s.record?_plain, hlive, Option.map_none]
      have hinsert : ∀ deadline, (t.enter now id).2.plain = t.plain.insert id deadline →
          (∀ id' ≠ id, (t.enter now id).2.track id' = t.track id') ∧
            (t.enter now id).2.track id = some (deadline, Progress.empty) := by
        intro deadline hplain
        unfold track
        rw [hplain]
        refine ⟨fun id' hne => ?_, ?_⟩
        · rw [PlainTable.track_insert hfound, if_neg hne]
        · rw [PlainTable.track_insert hfound, if_pos rfl]
      rw [show t.track id = none from PlainTable.track_eq_none_iff.mpr hfound]
      cases hlifetime : t.timeout.toDouble? with
      | some lifetime =>
          obtain ⟨hplain, h, hok, -⟩ := s.enter_plain hlifetime now id
          rw [PlainTable.enter, hfound] at hplain
          obtain ⟨hothers, hown⟩ := hinsert _ hplain
          exact ⟨hothers, ⟨h, hok⟩, hown⟩
      | none =>
          obtain ⟨hplain, herror⟩ := s.enter_plain_unscheduled hlifetime hlive now
          obtain ⟨hothers, hown⟩ := hinsert _ hplain
          exact ⟨hothers, ⟨_, herror⟩, hown⟩

/-- A write to a retrieval that was just entered. -/
theorem track_mark (s : Sound t) {now : Binary64} {id : Uuid} {h : Handle} {t' : LiveTable}
    (henter : t.enter now id = (.ok h, t')) {x : Binary64 × Progress} (hx : t'.track id = some x)
    (m : Mark) :
    (t'.write h m).1 = (x.2.mark m).1 ∧
      (t'.write h m).2.startTime h = (x.2.mark m).2.start ∧
      ∀ id', (t'.write h m).2.track id'
        = if id' = id then some (x.1, (x.2.mark m).2) else t.track id' := by
  have hothers := (s.track_enter now id).1
  have hsound := s.enter now id
  have hmem := s.mem_enter now id (h := h)
  rw [henter] at hothers hsound hmem
  obtain ⟨n, he⟩ := hmem rfl
  obtain ⟨deadline, progress, htrack, hanswer, hstart, hafter⟩ := hsound.track_write he m
  rw [hx] at htrack
  cases htrack
  refine ⟨hanswer, hstart, fun id' => ?_⟩
  rw [hafter]
  split
  · rfl
  · rename_i hne
    exact hothers id' hne

end Sound

end LiveTable

/-- An expiry does to every track what it would do to it alone. -/
theorem LiveTable.Sound.track_expire {t : LiveTable} (s : Sound t) {now : Binary64}
    (hdue : Deadline.Clear t.queue ∨ ∀ d ∈ t.queue, d.time.le now = false) (id : Uuid) :
    (((t.expire now).1.filter fun e => e.1 = id).map fun _ => Update.count .expired)
        = ((t.track id).expire now).1 ∧
      (t.expire now).2.track id = ((t.track id).expire now).2 := by
  obtain ⟨hexpired, hplain⟩ := s.expire_plain hdue
  have htrack := s.distinct.track_expire now id
  rw [← hexpired, ← hplain] at htrack
  exact htrack

end RetrievalTelemetry
