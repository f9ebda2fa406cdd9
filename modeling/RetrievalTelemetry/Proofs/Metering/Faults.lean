/-
What stops an event before it is told to anyone.

Writing can only fail for want of a deadline, and ending a retrieval only for want of a rate.  Which
of the two an event does is its rule's business, so the rules are gone through once, to see that only
a success can end a retrieval with a fault.
-/
import RetrievalTelemetry.Proofs.Metering.Lineage
import RetrievalTelemetry.Proofs.Metering.Success

namespace RetrievalTelemetry

/-- An event makes an entry that gets no deadline. -/
def LiveTable.NoDeadline (t : LiveTable) (e : Event) : Prop :=
  (∃ mark told, Metering.rule e = .mark mark told) ∧ t.live? e.retrieval = none ∧
    t.timeout.toDouble? = none

namespace Action

/-- Only the deadline of a new entry can stop a write. -/
theorem fault_mark (now : Binary64) (t : LiveTable) (id : Uuid) (m : Mark)
    (told : MarkAnswer → Option Timestamp → List Update) :
    ((mark m told).apply now t id).fault
      = if t.live? id = none ∧ t.timeout.toDouble? = none then some .tooLarge else none := by
  unfold apply
  cases h : t.live? id with
  | some entry =>
      rw [LiveTable.enter_some h]
      rfl
  | none =>
      cases htimeout : t.timeout.toDouble? with
      | none =>
          have hd : t.deadline now = .error .tooLarge := by rw [LiveTable.deadline, htimeout]
          rw [LiveTable.enter_error h hd]
          rfl
      | some lifetime =>
          have hd : t.deadline now = .ok (now.add lifetime) := by rw [LiveTable.deadline, htimeout]
          rw [LiveTable.enter_none h hd]
          rfl

end Action

namespace Metering

/-- A success reports a transfer without a rate. -/
def NoRate (e : Event) (p : Progress) : Prop :=
  ∃ bytes first, e.received? = some bytes ∧ p.firstByte = some first ∧
    first.isBefore e.time = true ∧
    ∃ error, transferRate bytes (e.time.since first).toSeconds = .error error

theorem successTransfer_fault (e : Event) (p : Progress) :
    (successTransfer e p).2 ≠ none ↔ NoRate e p := by
  unfold successTransfer NoRate
  cases e.received? with
  | none => simp
  | some bytes =>
      cases p.firstByte with
      | none => simp
      | some first =>
          simp only [zero_lt_since, Option.some.injEq, exists_and_left, exists_eq_left']
          by_cases hbefore : first.isBefore e.time = true
          · rw [if_pos hbefore]
            cases transferRate bytes (e.time.since first).toSeconds <;> simp [hbefore]
          · simp [hbefore]

theorem successUpdates_fault (e : Event) (p : Progress) :
    (successUpdates e p).2 ≠ none ↔ NoRate e p := by
  rw [← successTransfer_fault]
  unfold successUpdates
  rcases successTransfer e p with ⟨transfer, fault⟩
  cases fault <;> simp

/-- The rules that end a retrieval: one cannot fail, and the other is that of a success. -/
theorem rule_close {e : Event} {told : Progress → List Update × Option ArithmeticError}
    (h : rule e = .close told) :
    (∀ p, (told p).2 = none) ∨
      e.phase = .retrieval ∧ e.code = .success ∧ told = successUpdates e := by
  have hcounted : ∀ {mark : Int → Mark} {told' : Int → MarkAnswer → Option Timestamp → List Update},
      (ifCounted e fun count => .mark (mark count) (told' count)) ≠ .close told := by
    intro mark told'
    unfold ifCounted
    split
    · exact fun hc => by cases hc
    · split <;> exact fun hc => by cases hc
  unfold rule at h
  split at h
  case h_2 => exact absurd h hcounted
  case h_3 => exact absurd h hcounted
  case h_4 =>
    cases h
    exact Or.inl fun _ => rfl
  case h_8 =>
    unfold retrievalStarted at h
    split at h <;> cases h
  case h_11 hphase hcode =>
    cases h
    exact Or.inr ⟨hphase, hcode, rfl⟩
  all_goals cases h

/-- What stops an event before it is told to the meter. -/
theorem event_fault (now : Binary64) (t : LiveTable) (e : Event) :
    (event now t e).fault ≠ none ↔
      t.NoDeadline e ∨
        e.phase = .retrieval ∧ e.code = .success ∧
          ∃ entry, t.live? e.retrieval = some entry ∧ NoRate e (t.progress entry.handle) := by
  unfold event LiveTable.NoDeadline
  have hsuccess : e.phase = .retrieval → e.code = .success → rule e = .close (successUpdates e) :=
    rule_success
  cases hrule : rule e with
  | mark m told =>
      rw [hrule] at hsuccess
      have hno : e.phase = .retrieval → ¬e.code = .success := by
        intro hphase hcode
        cases hsuccess hphase hcode
      rw [Action.fault_mark]
      simp +contextual [hno]
  | tell updates =>
      rw [hrule] at hsuccess
      have hno : e.phase = .retrieval → ¬e.code = .success := by
        intro hphase hcode
        cases hsuccess hphase hcode
      simp +contextual [hno, Action.apply]
  | close told =>
      have hfault : ((Action.close told).apply now t e.retrieval).fault ≠ none ↔
          ∃ entry, t.live? e.retrieval = some entry ∧ (told (t.progress entry.handle)).2 ≠ none := by
        unfold Action.apply
        cases hlive : t.live? e.retrieval with
        | none => simp [LiveTable.finish_none hlive]
        | some entry => simp [LiveTable.finish_some hlive]
      rw [hfault]
      rcases rule_close hrule with hnever | ⟨hphase, hcode, rfl⟩
      · constructor
        · rintro ⟨entry, -, hstopped⟩
          exact absurd (hnever _) hstopped
        · rintro (⟨⟨m, told', hmark⟩, -⟩ | ⟨hphase, hcode, entry, hlive, hrate⟩)
          · cases hmark
          · rw [hrule] at hsuccess
            cases hsuccess hphase hcode
            exact ⟨entry, hlive, (successUpdates_fault e _).mpr hrate⟩
      · simp [hphase, hcode, successUpdates_fault]

end Metering

end RetrievalTelemetry
