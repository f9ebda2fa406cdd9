/-
What an action does to the table.

All event rules come down to three actions, so whatever is to be shown of the rules is shown of an
action once.  Here are the three things that the runs need: the balance of retrievals that came
and went, the invariant of a clock that advances, and the track of the one retrieval that the
action is about.
-/
import RetrievalTelemetry.Proofs.Live.Census
import RetrievalTelemetry.Proofs.Live.Clock
import RetrievalTelemetry.Proofs.Live.Track
import RetrievalTelemetry.Proofs.Metering.Tally

namespace RetrievalTelemetry

/-! ### The balance -/

/-- What the table and the updates of one step owe each other: of the retrievals that were live or
that it makes live, each is live afterwards or its end is reported. -/
structure LiveTable.Balanced (t t' : LiveTable) (opened ended : List Uuid) (updates : List Update)
    (complete : Prop) : Prop where
  sound : Sound t'
  ids : (ended ++ t'.ids).Perm (t.ids ++ opened)
  sequence : t'.sequence = t.sequence + opened.length
  expiredTotal : t'.expiredTotal = t.expiredTotal + Update.adds .expired updates
  fair : Update.Fair updates ended.length complete

namespace LiveTable

theorem Balanced.refl {t : LiveTable} (s : Sound t) : Balanced t t [] [] [] True where
  sound := s
  ids := by rw [List.append_nil]; exact List.Perm.refl _
  sequence := rfl
  expiredTotal := rfl
  fair := Update.fair_nil True

theorem Balanced.trans {t t' t'' : LiveTable} {opened opened' ended ended' : List Uuid}
    {us vs : List Update} {p q : Prop} (h : Balanced t t' opened ended us p)
    (h' : Balanced t' t'' opened' ended' vs q) :
    Balanced t t'' (opened ++ opened') (ended ++ ended') (us ++ vs) (p ∧ q) where
  sound := h'.sound
  ids := by
    rw [List.append_assoc, ← List.append_assoc t.ids]
    refine (h'.ids.append_left ended).trans ?_
    rw [← List.append_assoc]
    exact h.ids.append_right opened'
  sequence := by rw [h'.sequence, h.sequence, List.length_append, Nat.add_assoc]
  expiredTotal := by rw [h'.expiredTotal, h.expiredTotal, Update.adds_append, Nat.add_assoc]
  fair := by
    rw [List.length_append]
    exact h.fair.append h'.fair

end LiveTable

namespace Action

variable {t : LiveTable}

/-- The retrieval that an action makes live, if it does. -/
def entering (t : LiveTable) (id : Uuid) : Action → List Uuid
  | .mark .. => t.entering id
  | .close _ => []
  | .tell _ => []

open LiveTable in
theorem balanced_mark (s : Sound t) {m : Mark} {told : MarkAnswer → Option Timestamp → List Update}
    (hfair : ∀ answer start, Update.Fair (told answer start) 0 True) (now : Binary64) (id : Uuid) :
    Balanced t ((mark m told).apply now t id).table (t.entering id) []
      ((mark m told).apply now t id).updates (((mark m told).apply now t id).fault = none) := by
  obtain ⟨hids, hsequence, hexpired⟩ := enter_census t now id
  have hsound := s.enter now id
  have hmem := fun h => s.mem_enter now id (h := h)
  unfold apply
  rcases henter : t.enter now id with ⟨given, t'⟩
  rw [henter] at hids hsequence hexpired hsound hmem
  cases given with
  | error fault => exact ⟨hsound, List.Perm.of_eq hids, hsequence, hexpired, Update.fair_nil _⟩
  | ok h =>
      obtain ⟨n, he⟩ := hmem h rfl
      have htold := hfair (t'.write h m).1 ((t'.write h m).2.startTime h)
      refine ⟨hsound.write (Or.inl ⟨_, he, rfl⟩) m, List.Perm.of_eq hids, hsequence, ?_,
        htold.outcomes, htold.split, fun _ => htold.samples trivial⟩
      show t'.expiredTotal = _ + Update.adds .expired (told _ _)
      rw [htold.expired]
      exact hexpired

open LiveTable in
theorem balanced_close (s : Sound t) {told : Progress → List Update × Option ArithmeticError}
    (hfair : Fair (close told)) (now : Binary64) (id : Uuid) :
    Balanced t ((close told).apply now t id).table []
      (List.replicate (Update.outcomes ((close told).apply now t id).updates) id)
      ((close told).apply now t id).updates (((close told).apply now t id).fault = none) := by
  obtain ⟨hids, hsequence, hexpired⟩ := s.finish_census id
  have hsound := s.finish id
  have hcontains : t.contains id = (t.live? id).isSome := rfl
  unfold apply
  cases hlive : t.live? id with
  | none =>
      rw [finish_none hlive]
      have hids : ([] ++ t.ids).Perm (t.ids ++ []) := by rw [List.append_nil]; exact .refl _
      exact ⟨s, hids, rfl, rfl, Update.fair_nil _⟩
  | some entry =>
      rw [leaving, hcontains, hlive] at hids
      rw [finish_some hlive] at hids hsequence hexpired hsound ⊢
      obtain ⟨htold, hnone⟩ := hfair (t.progress entry.handle)
      refine ⟨hsound, ?_, hsequence, ?_, ?_, htold.split, htold.samples⟩
      · show (List.replicate (Update.outcomes (told _).1) id ++ _).Perm (t.ids ++ [])
        rw [htold.outcomes, List.append_nil]
        exact hids
      · show _ = _ + Update.adds .expired (told _).1
        rw [hnone]
        exact hexpired
      · rw [List.length_replicate]

/-- Every fair action keeps the balance. -/
theorem balanced (s : LiveTable.Sound t) {a : Action} (ha : a.Fair) (now : Binary64) (id : Uuid) :
    LiveTable.Balanced t (a.apply now t id).table (a.entering t id)
      (List.replicate (Update.outcomes (a.apply now t id).updates) id)
      (a.apply now t id).updates ((a.apply now t id).fault = none) := by
  cases a with
  | mark m told =>
      have hbalanced := balanced_mark s (m := m) ha now id
      rw [hbalanced.fair.outcomes]
      exact hbalanced
  | close told => exact balanced_close s ha now id
  | tell updates =>
      have hfair : Update.Fair updates 0 True := ha
      have hids : ([] ++ t.ids).Perm (t.ids ++ []) := by rw [List.append_nil]; exact .refl _
      have hexpired : t.expiredTotal = t.expiredTotal + Update.adds .expired updates := by
        rw [hfair.expired]
        rfl
      show LiveTable.Balanced t t [] (List.replicate (Update.outcomes updates) id) updates _
      rw [hfair.outcomes]
      exact ⟨s, hids, rfl, hexpired, hfair.outcomes, hfair.split, fun _ => hfair.samples trivial⟩

end Action

/-! ### The clock -/

namespace LiveTable

/-- An action keeps the lifetime, and a clock that advances stays in order. -/
theorem Timely.apply {t : LiveTable} {now : Binary64} (h : Timely now t) (a : Action) (id : Uuid) :
    Timely now (a.apply now t id).table ∧ (a.apply now t id).table.timeout = t.timeout := by
  cases a with
  | mark m told =>
      have hentered := h.enter id
      have htimeout := timeout_enter t now id
      unfold Action.apply
      rcases henter : t.enter now id with ⟨given, t'⟩
      rw [henter] at hentered htimeout
      cases given with
      | error error => exact ⟨hentered, htimeout⟩
      | ok handle => exact ⟨hentered.of_subset rfl fun _ hd => hd, htimeout⟩
  | close told =>
      obtain ⟨hqueue, htimeout⟩ := finish_frame t id
      unfold Action.apply
      rcases hfinish : t.finish id with ⟨progress?, t'⟩
      rw [hfinish] at hqueue htimeout
      have htimely : Timely now t' := h.of_subset htimeout fun d hd => hqueue ▸ hd
      cases progress? with
      | none => exact ⟨htimely, htimeout⟩
      | some progress => exact ⟨htimely, htimeout⟩
  | tell updates => exact ⟨h, rfl⟩

end LiveTable

/-! ### The track -/

namespace Action

variable {t : LiveTable}

/-- What an action tells of a retrieval at the time `now`, and what it makes of its track. -/
def track (timeout : Number) (now : Binary64) (x : Track) : Action → List Update × Track
  | .mark written told =>
    match x, timeout.toDouble? with
    | some (deadline, progress), _ =>
      (told (progress.mark written).1 (progress.mark written).2.start,
       some (deadline, (progress.mark written).2))
    | none, some lifetime =>
      (told (Progress.empty.mark written).1 (Progress.empty.mark written).2.start,
       some (now.add lifetime, (Progress.empty.mark written).2))
    | none, none => ([], some (.nan, Progress.empty))
  | .close told =>
    match x with
    | some (_, progress) => ((told progress).1, none)
    | none => ([], none)
  | .tell updates => (updates, x)

theorem mark_track (s : LiveTable.Sound t) (m : Mark)
    (told : MarkAnswer → Option Timestamp → List Update) (now : Binary64) (id : Uuid) :
    ((mark m told).apply now t id).updates
        = ((mark m told).track t.timeout now (t.track id)).1 ∧
      ∀ id', ((mark m told).apply now t id).table.track id'
        = if id' = id then ((mark m told).track t.timeout now (t.track id)).2
          else t.track id' := by
  obtain ⟨hothers, hown⟩ := s.track_enter now id
  unfold apply track
  rcases henter : t.enter now id with ⟨given, t'⟩
  rw [henter] at hothers hown
  cases hx : t.track id with
  | some x =>
      rw [hx] at hown
      obtain ⟨⟨h, rfl⟩, htrack⟩ := hown
      obtain ⟨hanswer, hstart, hafter⟩ := s.track_mark henter htrack m
      exact ⟨congrArg₂ told hanswer hstart, hafter⟩
  | none =>
      rw [hx] at hown
      cases hlifetime : t.timeout.toDouble? with
      | some lifetime =>
          rw [hlifetime] at hown
          obtain ⟨⟨h, rfl⟩, htrack⟩ := hown
          obtain ⟨hanswer, hstart, hafter⟩ := s.track_mark henter htrack m
          exact ⟨congrArg₂ told hanswer hstart, hafter⟩
      | none =>
          rw [hlifetime] at hown
          obtain ⟨⟨error, rfl⟩, htrack⟩ := hown
          refine ⟨rfl, fun id' => ?_⟩
          show t'.track id' = if id' = id then some (.nan, Progress.empty) else t.track id'
          split
          · rename_i hid
            rw [hid]
            exact htrack
          · rename_i hne
            exact hothers id' hne

theorem close_track (s : LiveTable.Sound t)
    (told : Progress → List Update × Option ArithmeticError) (now : Binary64) (id : Uuid) :
    ((close told).apply now t id).updates
        = ((close told).track t.timeout now (t.track id)).1 ∧
      ∀ id', ((close told).apply now t id).table.track id'
        = if id' = id then ((close told).track t.timeout now (t.track id)).2
          else t.track id' := by
  obtain ⟨hanswer, hplain⟩ := s.finish_plain id
  have htrack := fun id' => s.distinct.track_finish id id'
  rw [← hplain] at htrack
  unfold apply track
  rcases hfinish : t.finish id with ⟨progress?, t'⟩
  rw [hfinish] at hanswer htrack
  cases hfound : t.plain.record? id with
  | none =>
      have hx : t.track id = none := PlainTable.track_eq_none_iff.mpr hfound
      rw [PlainTable.finish, hfound] at hanswer
      obtain rfl : progress? = none := hanswer
      rw [hx]
      exact ⟨rfl, htrack⟩
  | some r =>
      obtain ⟨hr, rfl⟩ := PlainTable.mem_of_record? hfound
      have hx : t.track r.id = some (r.deadline, r.progress) := s.distinct.track_of_mem hr
      rw [PlainTable.finish, hfound] at hanswer
      obtain rfl : progress? = some r.progress := hanswer
      rw [hx]
      exact ⟨rfl, htrack⟩

/-- An action on a retrieval tells what the track says and changes no other track. -/
theorem apply_track (s : LiveTable.Sound t) (a : Action) (now : Binary64) (id : Uuid) :
    (a.apply now t id).updates = (a.track t.timeout now (t.track id)).1 ∧
      ∀ id', (a.apply now t id).table.track id'
        = if id' = id then (a.track t.timeout now (t.track id)).2 else t.track id' := by
  cases a with
  | mark m told => exact mark_track s m told now id
  | close told => exact close_track s told now id
  | tell updates =>
      refine ⟨rfl, fun id' => ?_⟩
      show t.track id' = if id' = id then t.track id else t.track id'
      split
      · rename_i hid
        rw [hid]
      · rfl

end Action

end RetrievalTelemetry
