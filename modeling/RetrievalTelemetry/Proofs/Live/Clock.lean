/-
The clock and the deadlines.

A deadline is the reading of the clock at which its entry was made, plus the lifetime.  For finite
doubles the sum is a number.  It is a NaN if one of the two is, or if the clock reads
minus infinity and the lifetime is infinite; such a deadline hides due ones behind it in the queue.

A clock that only ever advances, by whatever amounts, cannot show the difference: once a deadline
is a NaN, the clock is at a place from which it never reaches a deadline again.  `Timely` is the
invariant that says so.
-/
import RetrievalTelemetry.Proofs.Live.Expiry

namespace RetrievalTelemetry

namespace LiveTable

/-! ### What the operations do to the queue -/

theorem deadline_eq_ok {t : LiveTable} {now time : Binary64} (h : t.deadline now = .ok time) :
    ∃ lifetime, t.timeout.toDouble? = some lifetime ∧ time = now.add lifetime := by
  unfold deadline at h
  split at h
  · cases h
  · rename_i lifetime hlifetime
    cases h
    exact ⟨lifetime, hlifetime, rfl⟩

/-- Entering adds the deadline it computes, or none. -/
theorem queue_enter {t : LiveTable} {now : Binary64} {id : Uuid} {d : Deadline}
    (hd : d ∈ (t.enter now id).2.queue) : d ∈ t.queue ∨ t.deadline now = .ok d.time := by
  cases h : t.live? id with
  | some entry =>
      rw [enter_some h] at hd
      exact Or.inl hd
  | none =>
      cases htime : t.deadline now with
      | error error =>
          rw [enter_error h htime] at hd
          exact Or.inl hd
      | ok time =>
          rw [enter_none h htime] at hd
          rcases Deadline.mem_insert.mp hd with rfl | hd
          · exact Or.inr rfl
          · exact Or.inl hd

theorem timeout_enter (t : LiveTable) (now : Binary64) (id : Uuid) :
    (t.enter now id).2.timeout = t.timeout := by
  cases h : t.live? id with
  | some entry => rw [enter_some h]
  | none =>
      cases htime : t.deadline now with
      | error error => rw [enter_error h htime, insert_timeout]
      | ok time => rw [enter_none h htime]; rfl

/-- Finishing leaves the queue and the lifetime alone. -/
theorem finish_frame (t : LiveTable) (id : Uuid) :
    (t.finish id).2.queue = t.queue ∧ (t.finish id).2.timeout = t.timeout := by
  cases h : t.live? id with
  | none => rw [finish_none h]; exact ⟨rfl, rfl⟩
  | some entry => rw [finish_some h]; exact ⟨rfl, rfl⟩

theorem Sound.queue_expire {t : LiveTable} (s : Sound t) {now : Binary64} {d : Deadline}
    (hd : d ∈ (t.expire now).2.queue) : d ∈ t.queue := by
  rw [s.expire_frame] at hd
  exact (List.dropWhile_sublist _).mem hd

theorem Sound.timeout_expire {t : LiveTable} (s : Sound t) (now : Binary64) :
    (t.expire now).2.timeout = t.timeout := by
  rw [s.expire_frame]
  rfl

/-! ### Deadlines that are no numbers -/

/-- A lifetime is not minus infinity. -/
theorem toDouble?_ne_of_ofTimeout {timeout : Number} {pool : Pool} {table : LiveTable}
    (h : LiveTable.ofTimeout timeout pool = .ok table) :
    timeout.toDouble? ≠ some (.infinity true) := by
  intro hlifetime
  cases timeout with
  | int n =>
      have hfinite : (Binary64.ofInt n).isFinite = true ∧ Binary64.ofInt n = .infinity true := by
        simpa [Number.toDouble?] using hlifetime
      rw [hfinite.2] at hfinite
      cases hfinite.1
  | double x =>
      cases hlifetime
      cases h

/-- The clock has come to a place from which it never reaches a deadline: it is lost itself, the
lifetime is a NaN, or an infinite lifetime begins in the infinite past. -/
def Stopped (timeout : Number) (now : Binary64) : Prop :=
  now.isNaN = true ∨ ∃ lifetime, timeout.toDouble? = some lifetime ∧
    (lifetime.isNaN = true ∨ lifetime = .infinity false ∧ now = .infinity true)

/-- A deadline that is a NaN was made by a clock that is stopped. -/
theorem stopped_of_isNaN {timeout : Number} (hpositive : timeout.toDouble? ≠ some (.infinity true))
    {now lifetime : Binary64} (hlifetime : timeout.toDouble? = some lifetime)
    (hnan : (now.add lifetime).isNaN = true) : Stopped timeout now := by
  rcases Binary64.isNaN_add.mp hnan with hc | hc | ⟨negative, rfl, rfl⟩
  · exact Or.inl hc
  · exact Or.inr ⟨lifetime, hlifetime, Or.inl hc⟩
  · cases negative with
    | true => exact Or.inr ⟨_, hlifetime, Or.inr ⟨rfl, rfl⟩⟩
    | false => exact absurd hlifetime hpositive

/-- A stopped clock that advances is stopped. -/
theorem Stopped.advance {timeout : Number} {now : Binary64} (h : Stopped timeout now)
    (seconds : Binary64) : Stopped timeout (now.add seconds) := by
  rcases h with hnow | ⟨lifetime, hlifetime, hnan | ⟨rfl, rfl⟩⟩
  · exact Or.inl (Binary64.isNaN_add.mpr (Or.inl hnow))
  · exact Or.inr ⟨lifetime, hlifetime, Or.inl hnan⟩
  · cases seconds with
    | nan => exact Or.inl rfl
    | infinity negative =>
        cases negative with
        | true => exact Or.inr ⟨_, hlifetime, Or.inr ⟨rfl, rfl⟩⟩
        | false => exact Or.inl rfl
    | finite negative m e => exact Or.inr ⟨_, hlifetime, Or.inr ⟨rfl, rfl⟩⟩

/-- Nothing is later than an infinite lifetime allows. -/
theorem le_add_infinity {now early : Binary64}
    (h : (early.add (.infinity false)).le now = true) : now = .infinity false := by
  have hinfinite : ∀ y : Binary64, (Binary64.infinity false).le y = true → y = .infinity false := by
    intro y hy
    cases y with
    | nan => cases hy
    | infinity negative =>
        cases negative with
        | true => cases hy
        | false => rfl
    | finite negative m e => cases hy
  cases early with
  | nan => cases h
  | infinity negative =>
      cases negative with
      | true => cases h
      | false => exact hinfinite now h
  | finite negative m e => exact hinfinite now h

/-- When the clock is stopped, no deadline is due. -/
theorem Stopped.not_due {timeout : Number} {now : Binary64} (h : Stopped timeout now)
    {lifetime : Binary64} (hlifetime : timeout.toDouble? = some lifetime) (early : Binary64) :
    (early.add lifetime).le now = false := by
  refine Bool.eq_false_iff.mpr fun hle => ?_
  obtain ⟨htime, hnow⟩ := Binary64.not_isNaN_of_le hle
  rcases h with hc | ⟨lifetime', hlifetime', hc⟩
  · rw [hnow] at hc
    cases hc
  · obtain rfl : lifetime = lifetime' := by
      rw [hlifetime] at hlifetime'
      exact Option.some.inj hlifetime'
    rcases hc with hc | ⟨rfl, rfl⟩
    · rw [Binary64.isNaN_add.mpr (Or.inr (Or.inl hc))] at htime
      cases htime
    · cases le_add_infinity hle

/-! ### A clock that advances -/

/-- What is true of the deadlines as long as the clock only advances. -/
structure Timely (now : Binary64) (t : LiveTable) : Prop where
  positive : t.timeout.toDouble? ≠ some (.infinity true)
  /-- A deadline is an earlier reading and the lifetime. -/
  made : ∀ d ∈ t.queue, ∃ lifetime early : Binary64, t.timeout.toDouble? = some lifetime ∧
    d.time = early.add lifetime
  clear : Deadline.Clear t.queue ∨ Stopped t.timeout now

namespace Timely

variable {t : LiveTable} {now : Binary64}

/-- No NaN stands in the way of a due deadline. -/
theorem due (h : Timely now t) :
    Deadline.Clear t.queue ∨ ∀ d ∈ t.queue, d.time.le now = false := by
  refine h.clear.imp_right fun hstopped d hd => ?_
  obtain ⟨lifetime, early, hlifetime, htime⟩ := h.made d hd
  rw [htime]
  exact hstopped.not_due hlifetime early

theorem advance (h : Timely now t) (seconds : Binary64) : Timely (now.add seconds) t where
  positive := h.positive
  made := h.made
  clear := h.clear.imp_right fun hstopped => hstopped.advance seconds

/-- Any deadlines may be dropped from the queue. -/
theorem of_subset (h : Timely now t) {t' : LiveTable} (htimeout : t'.timeout = t.timeout)
    (hqueue : ∀ d ∈ t'.queue, d ∈ t.queue) : Timely now t' where
  positive := htimeout ▸ h.positive
  made d hd := htimeout ▸ h.made d (hqueue d hd)
  clear := htimeout ▸ h.clear.imp_left fun hclear d hd => hclear d (hqueue d hd)

theorem enter (h : Timely now t) (id : Uuid) : Timely now (t.enter now id).2 where
  positive := timeout_enter t now id ▸ h.positive
  made d hd := by
    rw [timeout_enter]
    rcases queue_enter hd with hd | htime
    · exact h.made d hd
    · obtain ⟨lifetime, hlifetime, htime⟩ := deadline_eq_ok htime
      exact ⟨lifetime, now, hlifetime, htime⟩
  clear := by
    rw [timeout_enter]
    by_cases hstopped : Stopped t.timeout now
    · exact Or.inr hstopped
    · refine Or.inl fun d hd => ?_
      rcases queue_enter hd with hd | htime
      · exact h.clear.resolve_right hstopped d hd
      · obtain ⟨lifetime, hlifetime, htime⟩ := deadline_eq_ok htime
        rw [htime]
        exact Bool.eq_false_iff.mpr fun hnan =>
          hstopped (stopped_of_isNaN h.positive hlifetime hnan)

end Timely

end LiveTable

end RetrievalTelemetry
