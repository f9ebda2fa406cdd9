/-
Handles and the records they were given out for.

A handle is a slot and an epoch; the plain table knows records by their numbers.  `Issued t h n`
says that the handle `h` was given out for the record number `n`, and where that stands now: the
entry is live and has this very handle, or it is gone for good, which the slot knows by its epoch
and the table by the number.  The second case is the one of the handles that are still held after
the slot went to another retrieval.

`Later` collects what every operation does to handles: epochs and numbers never fall, an entry that
goes takes the epoch of its handle with it, and no old number comes back.
-/
import RetrievalTelemetry.Proofs.Live.Reading

namespace RetrievalTelemetry

namespace LiveTable

/-- The entry with a number is gone, and its handle is out of date. -/
structure Gone (t : LiveTable) (h : Handle) (n : Nat) : Prop where
  epoch : h.epoch < (t.slots.slot h.slot).epoch
  numberLt : n < t.sequence
  no_entry : ∀ e ∈ t.entries, e.2.sequence ≠ n

/-- A handle was given out for the record with a number. -/
def Issued (t : LiveTable) (h : Handle) (n : Nat) : Prop :=
  (∃ id, (id, ⟨h, n⟩) ∈ t.entries) ∨ t.Gone h n

theorem Gone.not_current {t : LiveTable} {h : Handle} {n : Nat} (g : t.Gone h n) :
    t.slots.isCurrent h = false := by
  have hne := Nat.ne_of_lt g.epoch
  simpa [Slots.isCurrent] using hne

/-- How a table comes out of an earlier one. -/
structure Later (t t' : LiveTable) : Prop where
  sequence_le : t.sequence ≤ t'.sequence
  epoch_le : ∀ i, (t.slots.slot i).epoch ≤ (t'.slots.slot i).epoch
  /-- An entry stays, or its slot begins a new epoch. -/
  kept : ∀ e ∈ t.entries,
    e ∈ t'.entries ∨ e.2.handle.epoch < (t'.slots.slot e.2.handle.slot).epoch
  /-- No old number comes back. -/
  old : ∀ e ∈ t'.entries, e.2.sequence < t.sequence → e ∈ t.entries

/-- A handle stays the handle of its record. -/
theorem Issued.later {t t' : LiveTable} (s : Sound t) (l : Later t t')
    {h : Handle} {n : Nat} (hi : Issued t h n) : Issued t' h n := by
  rcases hi with ⟨id, he⟩ | g
  · have hlt : n < t.sequence := s.numberLt _ he
    by_cases hin : (id, ⟨h, n⟩) ∈ t'.entries
    · exact Or.inl ⟨id, hin⟩
    · refine Or.inr ⟨(l.kept _ he).resolve_left hin, hlt.trans_le l.sequence_le, ?_⟩
      intro e he' hnum
      have hold : e ∈ t.entries := l.old e he' (hnum ▸ hlt)
      exact hin (s.eq_of_sequence hold he hnum ▸ he')
  · refine Or.inr ⟨g.epoch.trans_le (l.epoch_le _), g.numberLt.trans_le l.sequence_le, ?_⟩
    intro e he' hnum
    exact g.no_entry e (l.old e he' (hnum ▸ g.numberLt)) hnum

/-! ### The operations -/

theorem Later.refl (t : LiveTable) : Later t t where
  sequence_le := Nat.le_refl _
  epoch_le _ := Nat.le_refl _
  kept _ he := Or.inl he
  old _ he _ := he

namespace Sound

variable {t : LiveTable}

theorem epoch_of_mem (s : Sound t) {e : Uuid × LiveEntry} (he : e ∈ t.entries) :
    e.2.handle.epoch = (t.slots.slot e.2.handle.slot).epoch := by
  simpa [Slots.isCurrent] using s.current e he

theorem later_insert (id : Uuid) (queue : List Deadline) :
    Later t { (t.insert id).2 with queue := queue } where
  sequence_le := Nat.le_succ _
  epoch_le _ := by rw [slot_insert]
  kept e he := Or.inl (List.mem_append_left _ he)
  old e he hlt := by
    rcases List.mem_append.mp he with he | he
    · exact he
    · rw [List.mem_singleton.mp he] at hlt
      exact absurd hlt (Nat.lt_irrefl _)

theorem later_enter (now : Binary64) (id : Uuid) : Later t (t.enter now id).2 := by
  cases h : t.live? id with
  | some entry => rw [enter_some h]; exact Later.refl t
  | none =>
      cases hd : t.deadline now with
      | error error => rw [enter_error h hd]; exact later_insert id t.queue
      | ok time => rw [enter_none h hd]; exact later_insert id _

theorem later_write (h : Handle) (m : Mark) : Later t (t.write h m).2 where
  sequence_le := Nat.le_refl _
  epoch_le _ := Nat.le_of_eq (Slots.epoch_write ..).symm
  kept _ he := Or.inl he
  old _ he _ := he

theorem later_finish (s : Sound t) (id : Uuid) : Later t (t.finish id).2 := by
  cases h : t.live? id with
  | none => rw [finish_none h]; exact Later.refl t
  | some entry =>
      rw [finish_some h]
      have hmem := (live?_eq_some_iff s.ids).mp h
      refine ⟨Nat.le_refl _, fun i => epoch_le_retire _ _ i, fun e he => ?_,
        fun e he _ => List.mem_of_mem_filter he⟩
      by_cases hid : e.1 = id
      · have hsame : e = (id, entry) := List.inj_on_of_nodup_map s.ids he hmem hid
        have hself := slot_retire_self (t := t.removeEntry id) (s.liveSlot_lt hmem)
        refine Or.inr ?_
        rw [hsame, hself, s.epoch_of_mem hmem]
        exact Nat.lt_add_of_pos_right (by decide)
      · exact Or.inl (List.mem_filter.mpr ⟨he, by simpa using hid⟩)

/-- The slot of every retired entry begins new epochs. -/
theorem epoch_lt_retireAll : ∀ (removed : List (Uuid × LiveEntry)) (t : LiveTable),
    (∀ e ∈ removed, e.2.handle.slot < t.slots.size) → ∀ e ∈ removed,
    (t.slots.slot e.2.handle.slot).epoch
      < ((t.retireAll removed).2.slots.slot e.2.handle.slot).epoch := by
  intro removed
  induction removed with
  | nil => intro t _ e he; cases he
  | cons f rest ih =>
      intro t hlt e he
      rcases List.mem_cons.mp he with rfl | he
      · have hself := slot_retire_self (hlt e List.mem_cons_self)
        refine Nat.lt_of_lt_of_le ?_ (epoch_le_retireAll rest (t.retire e.2).2 _)
        rw [hself]
        exact Nat.lt_add_of_pos_right (by decide)
      · refine Nat.lt_of_le_of_lt (epoch_le_retire t f.2 _) (ih (t.retire f.2).2 ?_ e he)
        intro g hg
        rw [retire_size]
        exact hlt g (List.mem_cons_of_mem f hg)

theorem later_expire (s : Sound t) (now : Binary64) : Later t (t.expire now).2 where
  sequence_le := by
    rw [s.expire_frame]
    exact Nat.le_refl _
  epoch_le i := by
    rw [s.expire_snd]
    exact epoch_le_retireAll _ (t.dropDue now) i
  kept e he := by
    by_cases hnum : isNumbered (t.dueFront now) e = true
    · have hlt : ∀ f ∈ t.expiring now, f.2.handle.slot < (t.dropDue now).slots.size :=
        fun f hf => s.liveSlot_lt (s.mem_expiring.mp hf).1
      refine Or.inr ?_
      rw [s.epoch_of_mem he, s.expire_snd]
      exact epoch_lt_retireAll _ (t.dropDue now) hlt e (s.mem_expiring.mpr ⟨he, hnum⟩)
    · refine Or.inl ?_
      rw [s.expire_entries, List.mem_filter]
      exact ⟨he, by simpa using hnum⟩
  old e he _ := by
    rw [s.expire_entries] at he
    exact List.mem_of_mem_filter he

end Sound

/-! ### Handles against numbers -/

namespace Issued

variable {t : LiveTable} {h : Handle} {n : Nat}

/-- A handle can do what the number can: it writes to the record, or to nothing. -/
theorem write_plain (hi : Issued t h n) (s : Sound t) (m : Mark) :
    (t.write h m).1 = (t.plain.write n m).1 ∧
      (t.write h m).2.plain = (t.plain.write n m).2 ∧ Sound (t.write h m).2 := by
  rcases hi with ⟨id, he⟩ | g
  · have hwrite := s.write_plain he m
    exact ⟨hwrite.1, hwrite.2, s.write (Or.inl ⟨_, he, rfl⟩) m⟩
  · have hlate := Slots.write_late g.not_current m
    have hplain : t.plain.write n m = (m.lateAnswer, t.plain) := by
      rw [PlainTable.write, Sound.numbered?_plain_none g.no_entry]
    refine ⟨?_, ?_, s.write (Or.inr g.not_current) m⟩
    · rw [hplain, LiveTable.write, hlate]
    · rw [hplain, LiveTable.write, hlate]

theorem startTime_plain (hi : Issued t h n) (s : Sound t) :
    t.startTime h = t.plain.startTime n := by
  rcases hi with ⟨id, he⟩ | g
  · exact s.startTime_plain he
  · rw [PlainTable.startTime, Sound.numbered?_plain_none g.no_entry, LiveTable.startTime,
      Slots.startTime, if_neg (by simp [g.not_current])]
    rfl

end Issued

end LiveTable

end RetrievalTelemetry
