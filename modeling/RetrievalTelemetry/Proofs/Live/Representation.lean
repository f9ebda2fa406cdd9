/-
The parts of the live table in every state of every session.

A session can leave the table in no state in which two entries share a slot, or an entry shares
one with the pool, in which a waiting slot holds anything, or in which a handle that was given
out for one entry is given out for another.  This needs no assumption at all.

With the deadlines it is different.  A lifetime that is too large for a double gives no deadline,
and an entry that is made all the same stays in the table without one; with every lifetime that is a
double each entry has its one deadline in the queue, and none stands behind one that it comes before.
But a deadline that is a NaN hides due ones behind it, so what is said of an expiry is said of
clocks that give no such deadlines.  An expiry leaves nothing in the queue that is due, not even what
finished retrievals left there: `sweep` bounds the queue by the entries made in the last lifetime.
-/
import Mathlib.Data.List.Perm.Subperm
import RetrievalTelemetry.Proofs.Live.Refinement

namespace RetrievalTelemetry

/-! ### The deadlines of entries -/

namespace Deadline

/-- Of two deadlines, only one comes before the other. -/
theorem isBefore_asymm {a b : Deadline} (ha : a.time.isNaN = false) (hb : b.time.isNaN = false)
    (h : a.isBefore b = true) : b.isBefore a = false := by
  rw [isBefore_iff ha hb] at h
  refine Bool.eq_false_iff.mpr fun hba => ?_
  rw [isBefore_iff hb ha] at hba
  rcases h with h | ⟨h, hnum⟩ <;> rcases hba with hba | ⟨hba, hnum'⟩
  · exact h.asymm hba
  · exact h.ne' hba
  · exact hba.ne' h
  · exact Nat.lt_asymm hnum hnum'

/-- A NaN comes neither before nor after anything. -/
theorem not_isNaN_of_isBefore {a b : Deadline} (h : a.isBefore b = true) :
    a.time.isNaN = false ∧ b.time.isNaN = false := by
  unfold isBefore Binary64.eq Binary64.lt at h
  cases hcompare : a.time.compare? b.time with
  | none => simp [hcompare] at h
  | some order =>
      cases ha : a.time <;> cases hb : b.time <;> rw [ha, hb] at hcompare <;>
        first | exact ⟨rfl, rfl⟩ | cases hcompare

/-- No deadline stands behind one that it comes before. -/
def InOrder (queue : List Deadline) : Prop := queue.Pairwise fun a b => b.isBefore a = false

theorem InOrder.insert {queue : List Deadline} (h : InOrder queue) (d : Deadline) :
    InOrder (d.insert queue) := by
  induction queue with
  | nil => exact List.pairwise_singleton _ _
  | cons e rest ih =>
      obtain ⟨hhead, htail⟩ := List.pairwise_cons.mp h
      unfold Deadline.insert
      split
      · rename_i hbefore
        obtain ⟨hd, he⟩ := not_isNaN_of_isBefore hbefore
        refine List.pairwise_cons.mpr ⟨fun f hf => Bool.eq_false_iff.mpr fun hfd => ?_, h⟩
        have hf' := (not_isNaN_of_isBefore hfd).1
        rcases List.mem_cons.mp hf with rfl | hf
        · exact absurd hfd (by simp [isBefore_asymm hd he hbefore])
        · exact absurd (isBefore_trans hf' hd he hfd hbefore) (by simp [hhead f hf])
      · rename_i hbefore
        refine List.pairwise_cons.mpr ⟨fun f hf => ?_, ih htail⟩
        rcases mem_insert.mp hf with rfl | hf
        · simpa using hbefore
        · exact hhead f hf

/-- The deadlines that entries made at these times have with a lifetime. -/
def ofTimes (timeout : Number) (times : List Binary64) : List Binary64 :=
  times.filterMap fun now => timeout.toDouble?.map now.add

theorem mem_ofTimes {timeout : Number} {times : List Binary64} {time : Binary64} :
    time ∈ ofTimes timeout times ↔
      ∃ now ∈ times, ∃ lifetime, timeout.toDouble? = some lifetime ∧ time = now.add lifetime := by
  simp [ofTimes, eq_comm]

end Deadline

namespace LiveTable

/-- Every entry has a deadline that belongs to it. -/
def Scheduled (t : LiveTable) : Prop :=
  ∀ e ∈ t.entries, ∃ d ∈ t.queue, d.sequence = e.2.sequence ∧ d.id = e.1

variable {t : LiveTable}

theorem deadline_of_lifetime {lifetime : Binary64} (h : t.timeout.toDouble? = some lifetime)
    (now : Binary64) : t.deadline now = .ok (now.add lifetime) := by
  unfold deadline
  rw [h]

theorem Scheduled.enter (h : Scheduled t) {lifetime : Binary64}
    (hlifetime : t.timeout.toDouble? = some lifetime) (now : Binary64) (id : Uuid) :
    Scheduled (t.enter now id).2 := by
  cases hlive : t.live? id with
  | some entry =>
      rw [enter_some hlive]
      exact h
  | none =>
      rw [enter_none hlive (deadline_of_lifetime hlifetime now)]
      intro e he
      rw [insert_entries] at he
      rcases List.mem_append.mp he with he | he
      · obtain ⟨d, hd, hnum⟩ := h e he
        exact ⟨d, Deadline.mem_insert.mpr (Or.inr hd), hnum⟩
      · rw [List.mem_singleton.mp he]
        exact ⟨_, Deadline.mem_insert.mpr (Or.inl rfl), rfl, rfl⟩

theorem Scheduled.finish (h : Scheduled t) (id : Uuid) : Scheduled (t.finish id).2 := by
  cases hlive : t.live? id with
  | none =>
      rw [finish_none hlive]
      exact h
  | some entry =>
      rw [finish_some hlive]
      exact fun e he => h e (List.mem_of_mem_filter he)

theorem Sound.expire_queue (s : Sound t) (now : Binary64) :
    (t.expire now).2.queue = t.queue.dropWhile fun d => d.time.le now := by
  rw [s.expire_frame]
  rfl

/-- An entry that an expiry leaves keeps its deadline, since that is not among those taken off. -/
theorem Scheduled.expire (h : Scheduled t) (s : Sound t) (now : Binary64) :
    Scheduled (t.expire now).2 := by
  intro e he
  rw [s.expire_entries, List.mem_filter] at he
  obtain ⟨d, hd, hnum, hid⟩ := h e he.1
  refine ⟨d, ?_, hnum, hid⟩
  rw [s.expire_queue]
  rw [← List.takeWhile_append_dropWhile (p := fun d : Deadline => d.time.le now) (l := t.queue)]
    at hd
  refine (List.mem_append.mp hd).resolve_left fun hdue => ?_
  have hnumbered : isNumbered (t.dueFront now) e = true := isNumbered_iff.mpr ⟨d, hdue, hnum⟩
  simp [hnumbered] at he

/-- There is one deadline only for an entry that has one. -/
theorem Scheduled.unique (h : Scheduled t) (s : Sound t) {e : Uuid × LiveEntry}
    (he : e ∈ t.entries) :
    ∃ d, (t.queue.filter fun d => d.sequence = e.2.sequence) = [d] ∧ d.id = e.1 := by
  obtain ⟨d, hd, hnum, hid⟩ := h e he
  refine ⟨d, ?_, hid⟩
  have hperm : (t.queue.filter fun d => d.sequence = e.2.sequence).Perm [d] := by
    refine (List.perm_ext_iff_of_nodup ((s.queueNodup.of_map _).filter _)
      (List.nodup_singleton d)).mpr fun d' => ?_
    rw [List.mem_filter, List.mem_singleton, decide_eq_true_iff]
    constructor
    · rintro ⟨hd', hnum'⟩
      exact List.inj_on_of_nodup_map s.queueNodup hd' hd (hnum'.trans hnum.symm)
    · rintro rfl
      exact ⟨hd, hnum⟩
  exact List.perm_singleton.mp hperm

/-! ### Handles in the course of time -/

theorem Later.trans {t t' t'' : LiveTable} (l : Later t t') (l' : Later t' t'') : Later t t'' where
  sequence_le := l.sequence_le.trans l'.sequence_le
  epoch_le i := (l.epoch_le i).trans (l'.epoch_le i)
  kept e he := by
    rcases l.kept e he with hkept | hgone
    · exact l'.kept e hkept
    · exact Or.inr (hgone.trans_le (l'.epoch_le _))
  old e he hlt := l.old e (l'.old e he (hlt.trans_le l.sequence_le)) hlt

/-! ### What every operation keeps -/

theorem capacity_retireAll : ∀ (removed : List (Uuid × LiveEntry)) (t : LiveTable),
    (t.retireAll removed).2.pool.capacity = t.pool.capacity := by
  intro removed
  induction removed with
  | nil => intro t; rfl
  | cons e rest ih => intro t; exact (ih (t.retire e.2).2).trans (retire_capacity t e.2)

theorem capacity_insert (t : LiveTable) (id : Uuid) :
    (t.insert id).2.pool.capacity = t.pool.capacity := by
  rcases insert_cases t id with ⟨rest, -, hpool, -⟩ | ⟨-, -, hpool, -⟩ <;> rw [hpool]

/-- What is true of a table with this lifetime and this pool when entries were made at these
times. -/
structure Kept (timeout : Number) (capacity : Nat) (times : List Binary64) (t : LiveTable) : Prop
    where
  sound : Sound t
  lifetime : t.timeout = timeout
  capacity : t.pool.capacity = capacity
  scheduled : timeout.toDouble?.isSome = true → Scheduled t
  /-- Each deadline in the queue is that of an entry made at one of the times. -/
  deadlines : (t.queue.map Deadline.time).Subperm (Deadline.ofTimes timeout times)
  inOrder : Deadline.InOrder t.queue

namespace Kept

variable {timeout : Number} {capacity : Nat} {times : List Binary64}

theorem enter (k : Kept timeout capacity times t) (now : Binary64) (id : Uuid) :
    Kept timeout capacity (times ++ [now]) (t.enter now id).2 where
  sound := k.sound.enter now id
  lifetime := (timeout_enter t now id).trans k.lifetime
  capacity := by
    cases hlive : t.live? id with
    | some entry => rw [enter_some hlive, k.capacity]
    | none =>
        cases hd : t.deadline now with
        | error error => rw [enter_error hlive hd, capacity_insert, k.capacity]
        | ok time => rw [enter_none hlive hd]; exact (capacity_insert t id).trans k.capacity
  scheduled hsome := by
    obtain ⟨lifetime, hlifetime⟩ := Option.isSome_iff_exists.mp hsome
    exact (k.scheduled hsome).enter (k.lifetime ▸ hlifetime) now id
  deadlines := by
    have hmore : (Deadline.ofTimes timeout times).Sublist
        (Deadline.ofTimes timeout (times ++ [now])) :=
      (List.sublist_append_left times [now]).filterMap _
    have hold := k.deadlines.trans hmore.subperm
    cases hlive : t.live? id with
    | some entry => rwa [enter_some hlive]
    | none =>
        cases hd : t.deadline now with
        | error error => rwa [enter_error hlive hd]
        | ok time =>
            obtain ⟨lifetime, hlifetime, rfl⟩ := deadline_eq_ok hd
            have hlast : Deadline.ofTimes timeout (times ++ [now])
                = Deadline.ofTimes timeout times ++ [now.add lifetime] := by
              rw [k.lifetime] at hlifetime
              simp [Deadline.ofTimes, hlifetime]
            rw [enter_none hlive hd, hlast]
            refine ((Deadline.insert_perm _ t.queue).map Deadline.time).subperm.trans ?_
            refine List.Subperm.trans ?_ (List.perm_append_singleton _ _).symm.subperm
            exact (List.subperm_cons _).mpr k.deadlines
  inOrder := by
    cases hlive : t.live? id with
    | some entry => rw [enter_some hlive]; exact k.inOrder
    | none =>
        cases hd : t.deadline now with
        | error error => rw [enter_error hlive hd]; exact k.inOrder
        | ok time => rw [enter_none hlive hd]; exact k.inOrder.insert _

theorem write (k : Kept timeout capacity times t) {h : Handle} {n : Nat} (hi : Issued t h n)
    (m : Mark) : Kept timeout capacity times (t.write h m).2 where
  sound := (hi.write_plain k.sound m).2.2
  lifetime := k.lifetime
  capacity := k.capacity
  scheduled := k.scheduled
  deadlines := k.deadlines
  inOrder := k.inOrder

theorem finish (k : Kept timeout capacity times t) (id : Uuid) :
    Kept timeout capacity times (t.finish id).2 where
  sound := k.sound.finish id
  lifetime := (finish_frame t id).2.trans k.lifetime
  capacity := by
    cases hlive : t.live? id with
    | none => rw [finish_none hlive, k.capacity]
    | some entry =>
        rw [finish_some hlive]
        exact (retire_capacity (t.removeEntry id) entry).trans k.capacity
  scheduled hsome := (k.scheduled hsome).finish id
  deadlines := by
    rw [(finish_frame t id).1]
    exact k.deadlines
  inOrder := by
    rw [(finish_frame t id).1]
    exact k.inOrder

theorem expire (k : Kept timeout capacity times t) (now : Binary64) :
    Kept timeout capacity times (t.expire now).2 where
  sound := k.sound.expire now
  lifetime := (k.sound.timeout_expire now).trans k.lifetime
  capacity := by
    rw [k.sound.expire_snd]
    exact (capacity_retireAll _ (t.dropDue now)).trans k.capacity
  scheduled hsome := (k.scheduled hsome).expire k.sound now
  deadlines := by
    rw [k.sound.expire_queue]
    exact (((List.dropWhile_sublist _).map _).subperm).trans k.deadlines
  inOrder := by
    rw [k.sound.expire_queue]
    exact k.inOrder.sublist (List.dropWhile_sublist _)

end Kept

end LiveTable

/-! ### Sessions -/

/-- A session after a list of questions. -/
def TableOps.after {τ η σ : Type} (ops : TableOps τ η) (listener : Option (Listener σ))
    (s : Session τ η σ) (steps : List TableStep) : Session τ η σ :=
  steps.foldl (fun s q => (ops.step listener s q).2) s

theorem TableOps.after_append {τ η σ : Type} (ops : TableOps τ η) (listener : Option (Listener σ))
    (s : Session τ η σ) (steps more : List TableStep) :
    ops.after listener s (steps ++ more) = ops.after listener (ops.after listener s steps) more :=
  List.foldl_append

namespace Session

variable {σ : Type} {timeout : Number} {capacity : Nat} {times : List Binary64}

/-- What is true at every point of a session in which entries were made at these times. -/
structure Kept (timeout : Number) (capacity : Nat) (times : List Binary64)
    (s : Session LiveTable Handle σ) : Prop where
  table : LiveTable.Kept timeout capacity times s.table
  issued : ∀ h ∈ s.handles, ∃ n, LiveTable.Issued s.table h n

namespace Kept

variable {s : Session LiveTable Handle σ}

/-- Handles stay what they are when the table moves on. -/
theorem later (k : Kept timeout capacity times s) {t : LiveTable} (l : LiveTable.Later s.table t) :
    ∀ h ∈ s.handles, ∃ n, LiveTable.Issued t h n := fun h hh =>
  let ⟨n, hi⟩ := k.issued h hh
  ⟨n, hi.later k.table.sound l⟩

/-- A question leaves a session such as it has to be, and its table is a later one. -/
theorem step (k : Kept timeout capacity times s) (listener : Option (Listener σ)) (q : TableStep) :
    let s' := (TableOps.live.step listener s q).2
    Kept timeout capacity (times ++ TableStep.entryTimes [q]) s' ∧
      LiveTable.Later s.table s'.table := by
  have hnone : times ++ [] = times := List.append_nil times
  have hsame : Kept timeout capacity (times ++ []) s ∧ LiveTable.Later s.table s.table :=
    ⟨by rwa [hnone], LiveTable.Later.refl _⟩
  unfold TableOps.step
  cases q with
  | enter now id =>
      have hkept := k.table.enter now id
      have hlater := LiveTable.Sound.later_enter (t := s.table) now id
      have hmem := fun h => k.table.sound.mem_enter now id (h := h)
      simp only [TableOps.live]
      rcases h : s.table.enter now id with ⟨_ | given, t⟩
      · rw [h] at hkept hlater
        exact ⟨⟨hkept, k.later hlater⟩, hlater⟩
      · rw [h] at hkept hlater hmem
        refine ⟨⟨hkept, fun h' hh' => ?_⟩, hlater⟩
        rcases List.mem_append.mp hh' with hh' | hh'
        · exact k.later hlater h' hh'
        · obtain ⟨n, he⟩ := hmem given rfl
          rw [List.mem_singleton.mp hh']
          exact ⟨n, Or.inl ⟨id, he⟩⟩
  | write i mark =>
      cases hi : s.handles[i]? with
      | none =>
          simp only [hi]
          exact hsame
      | some h =>
          simp only [hi]
          obtain ⟨n, hissued⟩ := k.issued h (List.mem_of_getElem? hi)
          have hlater := LiveTable.Sound.later_write (t := s.table) h mark
          exact ⟨⟨hnone.symm ▸ k.table.write hissued mark, k.later hlater⟩, hlater⟩
  | startTime i =>
      cases hi : s.handles[i]? <;> simp only [hi] <;> exact hsame
  | finish id =>
      have hlater := k.table.sound.later_finish id
      exact ⟨⟨hnone.symm ▸ k.table.finish id, k.later hlater⟩, hlater⟩
  | expire now =>
      have hlater := k.table.sound.later_expire now
      simp only [TableOps.live, LiveTable.expireTelling_eq]
      exact ⟨⟨hnone.symm ▸ k.table.expire now, k.later hlater⟩, hlater⟩
  | size => exact hsame
  | contains id => exact hsame
  | expiredTotal => exact hsame

/-- So does a list of questions. -/
theorem after (listener : Option (Listener σ)) (steps : List TableStep) :
    ∀ {times : List Binary64} {s : Session LiveTable Handle σ}, Kept timeout capacity times s →
      let s' := TableOps.live.after listener s steps
      Kept timeout capacity (times ++ TableStep.entryTimes steps) s' ∧
        LiveTable.Later s.table s'.table := by
  induction steps with
  | nil =>
      intro times s k
      exact ⟨by simpa [TableStep.entryTimes, TableOps.after] using k, LiveTable.Later.refl _⟩
  | cons q rest ih =>
      intro times s k
      obtain ⟨hkept, hlater⟩ := k.step listener q
      obtain ⟨hkept', hlater'⟩ := ih hkept
      rw [List.append_assoc, TableStep.entryTimes, TableStep.entryTimes,
        ← List.filterMap_append] at hkept'
      exact ⟨hkept', hlater.trans hlater'⟩

end Kept

end Session

namespace Pool

end Pool

namespace LiveTable

/-! ### What an expiry leaves -/

variable {timeout : Number} {capacity : Nat} {times : List Binary64} {t : LiveTable}

/-- No NaN stands in the way of a due deadline if the clock gives none and an infinite lifetime does
not both begin in the infinite past and end in the infinite future. -/
theorem Kept.due (k : Kept timeout capacity times t) {lifetime now : Binary64}
    (hpositive : timeout.toDouble? ≠ some (.infinity true))
    (hlifetime : timeout.toDouble? = some lifetime)
    (hclock : ∀ early ∈ times, early.isNaN = false)
    (hinfinite : lifetime = .infinity false → .infinity true ∉ times ∨ now ≠ .infinity false) :
    Deadline.Clear t.queue ∨ ∀ d ∈ t.queue, d.time.le now = false := by
  have hmade : ∀ d ∈ t.queue, ∃ early ∈ times, d.time = early.add lifetime := by
    intro d hd
    obtain ⟨early, hearly, lifetime', hlifetime', htime⟩ :=
      Deadline.mem_ofTimes.mp (k.deadlines.subset (List.mem_map_of_mem hd))
    obtain rfl : lifetime = lifetime' := Option.some.inj (hlifetime.symm.trans hlifetime')
    exact ⟨early, hearly, htime⟩
  by_cases hclear : Deadline.Clear t.queue
  · exact Or.inl hclear
  · refine Or.inr fun d hd => Bool.eq_false_iff.mpr fun hle => ?_
    obtain ⟨e, he, hnan⟩ : ∃ e ∈ t.queue, e.time.isNaN = true := by
      simpa [Deadline.Clear] using hclear
    obtain ⟨early, hearly, htime⟩ := hmade e he
    obtain ⟨early', -, htime'⟩ := hmade d hd
    rw [htime'] at hle
    rcases stopped_of_isNaN hpositive hlifetime (htime ▸ hnan) with hc | ⟨lifetime', hc, hlost⟩
    · rw [hclock early hearly] at hc
      cases hc
    · obtain rfl : lifetime = lifetime' := Option.some.inj (hlifetime.symm.trans hc)
      rcases hlost with hlost | ⟨rfl, rfl⟩
      · have hnumber := (Binary64.not_isNaN_of_le hle).1
        rw [Binary64.isNaN_add.mpr (Or.inr (Or.inl hlost))] at hnumber
        cases hnumber
      · exact (hinfinite rfl).elim (fun hno => hno hearly) fun hno => hno (le_add_infinity hle)

end LiveTable

end RetrievalTelemetry
