/-
Where the entry of a retrieval comes from, and what it knows.

After an action or an expiry, a live entry is one that was live before, or it is the one that the
action made for its own retrieval.  An action cannot do both, end a retrieval and begin it again,
so an entry that is seen before and after is the same all the time in between, and what it knows
differs by at most what the action wrote.
-/
import RetrievalTelemetry.Proofs.Metering.Action
import RetrievalTelemetry.Proofs.Metering.Delivered

namespace RetrievalTelemetry

namespace LiveTable

variable {t : LiveTable}

/-- What is known of a retrieval, if it is live. -/
def known? (t : LiveTable) (id : Uuid) : Option Progress :=
  (t.live? id).map fun entry => t.progress entry.handle

theorem known?_of_live {id : Uuid} {entry : LiveEntry} (h : t.live? id = some entry) :
    t.known? id = some (t.progress entry.handle) := by
  unfold known?
  rw [h]
  rfl

theorem known?_of_absent {id : Uuid} (h : t.live? id = none) : t.known? id = none := by
  unfold known?
  rw [h]
  rfl

/-- What is known is the progress of the track. -/
theorem Sound.known?_eq (s : Sound t) (id : Uuid) : t.known? id = (t.track id).map fun x => x.2 := by
  unfold known? track PlainTable.track
  rw [s.record?_plain, Option.map_map, Option.map_map]
  rfl

theorem live?_enter (t : LiveTable) (now : Binary64) (id id' : Uuid) :
    (t.enter now id).2.live? id'
      = (t.live? id').or (if id' = id then some ⟨(t.insert id).1, t.sequence⟩ else none) := by
  have hinsert : (t.insert id).2.live? id'
      = (t.live? id').or (if id' = id then some ⟨(t.insert id).1, t.sequence⟩ else none) := by
    unfold live?
    rw [insert_entries, List.lookup_append]
    by_cases hid : id' = id
    · simp [hid]
    · have hbeq : (id' == id) = false := by simpa using hid
      rw [List.lookup_cons, hbeq, if_neg hid]
      rfl
  cases h : t.live? id with
  | some entry =>
      rw [enter_some h]
      by_cases hid : id' = id
      · rw [hid, h]
        rfl
      · simp [hid]
  | none =>
      cases hd : t.deadline now with
      | error error =>
          rw [enter_error h hd]
          exact hinsert
      | ok time =>
          rw [enter_none h hd]
          exact hinsert

theorem Sound.live?_finish (s : Sound t) (id id' : Uuid) :
    (t.finish id).2.live? id' = if id' = id then none else t.live? id' := by
  cases h : t.live? id with
  | none =>
      rw [finish_none h]
      by_cases hid : id' = id
      · simp [hid, h]
      · simp [hid]
  | some entry =>
      rw [finish_some h]
      exact live?_removeEntry s.ids id id'

/-- An expiry makes no entry and writes to none. -/
theorem Sound.live?_expire (s : Sound t) (now : Binary64) {id : Uuid} {entry : LiveEntry}
    (h : (t.expire now).2.live? id = some entry) :
    t.live? id = some entry ∧
      (t.expire now).2.progress entry.handle = t.progress entry.handle := by
  have hmem := (live?_eq_some_iff (s.expire now).ids).mp h
  refine ⟨?_, s.progress_expire now hmem⟩
  rw [s.expire_entries] at hmem
  exact (live?_eq_some_iff s.ids).mpr (List.mem_of_mem_filter hmem)

end LiveTable

namespace Action

variable {t : LiveTable}

/-! ### The table after an action -/

/-- A mark enters its retrieval and writes to the entry, if that gets a deadline. -/
theorem mark_table (t : LiveTable) (m : Mark) (told : MarkAnswer → Option Timestamp → List Update)
    (now : Binary64) (id : Uuid) :
    ((mark m told).apply now t id).table = (t.enter now id).2 ∨
      ∃ handle, (t.enter now id).1 = .ok handle ∧
        ((mark m told).apply now t id).table = ((t.enter now id).2.write handle m).2 := by
  unfold apply
  rcases t.enter now id with ⟨error | handle, t'⟩
  · exact Or.inl rfl
  · exact Or.inr ⟨handle, rfl, rfl⟩

theorem close_table (t : LiveTable) (told : Progress → List Update × Option ArithmeticError)
    (now : Binary64) (id : Uuid) :
    ((close told).apply now t id).table = (t.finish id).2 := by
  unfold apply
  rcases t.finish id with ⟨none | progress, t'⟩
  · rfl
  · rfl

/-- The table stays sound, whatever the action tells. -/
theorem sound_apply (s : LiveTable.Sound t) (a : Action) (now : Binary64) (id : Uuid) :
    LiveTable.Sound (a.apply now t id).table := by
  cases a with
  | mark m told =>
      have hentered := s.enter now id
      rcases mark_table t m told now id with htable | ⟨handle, hgiven, htable⟩
      · rw [htable]
        exact hentered
      · obtain ⟨n, he⟩ := s.mem_enter now id hgiven
        rw [htable]
        exact hentered.write (Or.inl ⟨_, he, rfl⟩) m
  | close told =>
      rw [close_table]
      exact s.finish id
  | tell updates => exact s

theorem timeout_apply (t : LiveTable) (a : Action) (now : Binary64) (id : Uuid) :
    (a.apply now t id).table.timeout = t.timeout := by
  cases a with
  | mark m told =>
      have hentered := LiveTable.timeout_enter t now id
      rcases mark_table t m told now id with htable | ⟨handle, -, htable⟩
      · rw [htable]
        exact hentered
      · rw [htable]
        exact hentered
  | close told =>
      rw [close_table]
      exact (LiveTable.finish_frame t id).2
  | tell updates => rfl

/-! ### Lineage -/

/-- A live entry after an action was live before, or the action made it for its own retrieval. -/
theorem live?_apply (s : LiveTable.Sound t) (a : Action) (now : Binary64) (id : Uuid) {id' : Uuid}
    {entry : LiveEntry} (h : (a.apply now t id).table.live? id' = some entry) :
    t.live? id' = some entry ∨ t.live? id' = none ∧ id = id' := by
  cases a with
  | mark m told =>
      have hentered : (t.enter now id).2.live? id' = some entry := by
        rcases mark_table t m told now id with htable | ⟨handle, -, htable⟩
        · rwa [htable] at h
        · rw [htable] at h
          exact h
      rw [LiveTable.live?_enter] at hentered
      cases hlive : t.live? id' with
      | some entry' =>
          rw [hlive] at hentered
          exact Or.inl hentered
      | none =>
          rw [hlive, Option.none_or] at hentered
          by_cases hid : id' = id
          · exact Or.inr ⟨rfl, hid.symm⟩
          · rw [if_neg hid] at hentered
            cases hentered
  | close told =>
      rw [close_table, s.live?_finish] at h
      by_cases hid : id' = id
      · rw [if_pos hid] at h
        cases h
      · rw [if_neg hid] at h
        exact Or.inl h
  | tell updates => exact Or.inl h

/-- What is known of a live retrieval after an action on it: what was known before and what the
action writes.  An entry that gets no deadline is made all the same, but nothing is written. -/
theorem known?_apply (s : LiveTable.Sound t) (a : Action) (now : Binary64) (id : Uuid)
    {p : Progress} (h : (a.apply now t id).table.known? id = some p) :
    p = if t.live? id = none ∧ t.timeout.toDouble? = none then Progress.empty
      else a.writeTo ((t.known? id).getD Progress.empty) := by
  have hlive : t.live? id = none ↔ t.track id = none := by
    have hknown := s.known?_eq id
    unfold LiveTable.known? at hknown
    rw [← Option.map_eq_none_iff, hknown, Option.map_eq_none_iff]
  have htrack := (a.apply_track s now id).2 id
  rw [if_pos rfl] at htrack
  rw [(sound_apply s a now id).known?_eq, htrack] at h
  simp only [s.known?_eq, hlive]
  cases hx : t.track id with
  | some x =>
      rw [hx] at h
      cases a with
      | mark m told =>
          cases h
          simp [writeTo]
      | close told => cases h
      | tell updates =>
          cases h
          simp [writeTo]
  | none =>
      rw [hx] at h
      cases a with
      | mark m told =>
          unfold track at h
          cases htimeout : t.timeout.toDouble? with
          | none =>
              rw [htimeout] at h
              cases h
              simp
          | some lifetime =>
              rw [htimeout] at h
              cases h
              simp [writeTo]
      | close told => cases h
      | tell updates => cases h

/-- Nothing becomes known of other retrievals. -/
theorem known?_apply_ne (s : LiveTable.Sound t) (a : Action) (now : Binary64) {id id' : Uuid}
    (hid : id' ≠ id) : (a.apply now t id).table.known? id' = t.known? id' := by
  rw [(sound_apply s a now id).known?_eq, (a.apply_track s now id).2, if_neg hid, s.known?_eq]

end Action

end RetrievalTelemetry
