/-
Which retrievals are live, and how many there have been.

Each operation either leaves the retrievals that are live as they are, adds one, or takes some out
and answers which.  These are equations between lists up to order, so they say how many retrievals
there are and also which, and they hold for every reading of the clock: what is due is of no
concern here.
-/
import RetrievalTelemetry.Proofs.Live.Expiry

namespace RetrievalTelemetry

namespace LiveTable

/-- The live retrievals, in the order in which they came. -/
def ids (t : LiveTable) : List Uuid := t.entries.map fun e => e.1

theorem length_ids (t : LiveTable) : t.ids.length = t.size :=
  List.length_map ..

theorem Sound.nodup_ids {t : LiveTable} (s : Sound t) : t.ids.Nodup := s.ids

theorem contains_iff {t : LiveTable} {id : Uuid} : t.contains id = true ↔ id ∈ t.ids := by
  unfold contains ids
  rw [← not_iff_not, Bool.not_eq_true, Option.isSome_eq_false_iff, Option.isNone_iff_eq_none,
    live?_eq_none_iff, List.mem_map]
  exact ⟨fun h ⟨e, he, hid⟩ => h e he hid, fun h e he hid => h ⟨e, he, hid⟩⟩

/-- A retrieval is live once or not at all. -/
theorem Sound.count_ids {t : LiveTable} (s : Sound t) (id : Uuid) :
    t.ids.count id = (t.contains id).toNat := by
  cases h : t.contains id with
  | true => exact List.count_eq_one_of_mem s.nodup_ids (contains_iff.mp h)
  | false =>
      have hnot : ¬t.contains id = true := by simp [h]
      exact List.count_eq_zero_of_not_mem (mt contains_iff.mpr hnot)

/-- What an entry that is made adds. -/
def entering (t : LiveTable) (id : Uuid) : List Uuid := if t.contains id then [] else [id]

theorem enter_census (t : LiveTable) (now : Binary64) (id : Uuid) :
    (t.enter now id).2.ids = t.ids ++ t.entering id ∧
      (t.enter now id).2.sequence = t.sequence + (t.entering id).length ∧
      (t.enter now id).2.expiredTotal = t.expiredTotal := by
  unfold entering contains
  cases h : t.live? id with
  | some entry =>
      rw [enter_some h]
      exact ⟨(List.append_nil _).symm, rfl, rfl⟩
  | none =>
      cases hd : t.deadline now with
      | error error =>
          rw [enter_error h hd]
          exact ⟨List.map_append, rfl, rfl⟩
      | ok time =>
          rw [enter_none h hd]
          exact ⟨List.map_append, rfl, rfl⟩

/-- What is taken out when a retrieval is finished. -/
def leaving (t : LiveTable) (id : Uuid) : List Uuid := if t.contains id then [id] else []

theorem Sound.finish_census {t : LiveTable} (s : Sound t) (id : Uuid) :
    (t.leaving id ++ (t.finish id).2.ids).Perm t.ids ∧
      (t.finish id).2.sequence = t.sequence ∧
      (t.finish id).2.expiredTotal = t.expiredTotal := by
  unfold leaving contains
  cases h : t.live? id with
  | none =>
      rw [finish_none h]
      exact ⟨List.Perm.refl _, rfl, rfl⟩
  | some entry =>
      rw [finish_some h]
      refine ⟨?_, rfl, rfl⟩
      have hmem : id ∈ t.ids := List.mem_map_of_mem ((live?_eq_some_iff s.ids).mp h)
      have hrest : ((t.removeEntry id).retire entry).2.ids = t.ids.erase id := by
        rw [s.nodup_ids.erase_eq_filter, LiveTable.ids, LiveTable.ids, List.filter_map]
        have hkept : (t.entries.filter fun e => decide (e.1 ≠ id))
            = t.entries.filter ((fun x => x != id) ∘ fun e => e.1) :=
          List.filter_congr fun e _ => by by_cases hid : e.1 = id <;> simp [hid]
        rw [← hkept]
        rfl
      rw [hrest]
      exact (List.perm_cons_erase hmem).symm

theorem Sound.expire_census {t : LiveTable} (s : Sound t) (now : Binary64) :
    (((t.expire now).1.map fun e => e.1) ++ (t.expire now).2.ids).Perm t.ids ∧
      (t.expire now).2.sequence = t.sequence ∧
      (t.expire now).2.expiredTotal = t.expiredTotal + (t.expire now).1.length := by
  refine ⟨?_, by rw [s.expire_frame]; rfl, ?_⟩
  · have hgone : ((t.expire now).1.map fun e => e.1)
        = (t.expiring now).map fun e => e.1 := by
      rw [s.expire_fst, List.map_map]
      rfl
    rw [hgone, LiveTable.ids, s.expire_entries]
    refine (((s.expiring_perm now).map _).append_right _).trans ?_
    rw [← List.map_append]
    exact (List.filter_append_perm (isNumbered (t.dueFront now)) t.entries).map _
  · rw [s.expire_frame, s.expire_fst, List.length_map]
    rfl

end LiveTable

end RetrievalTelemetry
