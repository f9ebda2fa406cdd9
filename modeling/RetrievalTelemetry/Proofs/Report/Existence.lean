/-
When there is a report.

A report turns numbers without bound into doubles at a few places: the size of each download, the
bytes of all transfers together, and the last ranks of its two samples.  `Representable` asks that
these numbers are not too large, and a report exists exactly if they are not.  Everything else that
is calculated has a result, since doubles that are too large become infinite without complaint.

What is behind one number only concerns one pass over the facts.  So the step that adds the facts of
a retrieval is described first, with the transfers that it adds; the pass follows by induction.
-/
import RetrievalTelemetry.Intake.EventBatch
import RetrievalTelemetry.Proofs.EventLog.History
import RetrievalTelemetry.Proofs.Report.Facts
import RetrievalTelemetry.Proofs.Report.Rank
import RetrievalTelemetry.Proofs.Report.Totals

namespace RetrievalTelemetry

/-! ### Transfers -/

namespace RetrievalFacts

/-- The transfer from the first byte to the end, if there was one and its size is known: its bytes,
and how long it took. -/
def transfer? (f : RetrievalFacts) : Option (Int × Duration) :=
  f.success.bind fun s => (f.firstByteOf s).bind fun first =>
    s.received?.map fun bytes => (bytes, s.time.since first.time)

theorem isSome_transfer? (f : RetrievalFacts) : f.transfer?.isSome = f.isTransfer := by
  unfold transfer? isTransfer received? wait?
  cases f.success with
  | none => rfl
  | some s =>
      simp only [Option.bind_some]
      cases f.firstByteOf s <;> cases s.received? <;> rfl

theorem received?_of_transfer {f : RetrievalFacts} {t : Int × Duration}
    (h : f.transfer? = some t) : f.received? = some t.1 := by
  obtain ⟨s, hs, hfirst⟩ := Option.bind_eq_some_iff.mp h
  obtain ⟨first, -, hreceived⟩ := Option.bind_eq_some_iff.mp hfirst
  obtain ⟨bytes, hbytes, rfl⟩ := Option.map_eq_some_iff.mp hreceived
  unfold received?
  rw [hs, Option.bind_some, hbytes]

/-- Whether the size of the download, if it is known, is not too large for a double. -/
def sizeFits (f : RetrievalFacts) : Bool :=
  f.received?.all fun bytes => (Binary64.ofInt bytes).isFinite

end RetrievalFacts

namespace SuccessTotals

open RetrievalFacts (transfer? sizeFits isTransfer)

/-- The bytes of some transfers. -/
def bytesOf (transfers : List (Int × Duration)) : Int := (transfers.map (·.1)).sum

/-- The seconds of some transfers, rounded after each of them, on top of those of others. -/
def secondsFrom (seconds : Binary64) (transfers : List (Int × Duration)) : Binary64 :=
  transfers.foldl (fun seconds t => seconds.add t.2.toSeconds) seconds

theorem addSize_cases (totals : SuccessTotals) (received? : Option Int) :
    (∃ sizes, totals.addSize received? = .ok { totals with sizes := sizes }) ∧
        (received?.all fun bytes => (Binary64.ofInt bytes).isFinite) = true ∨
      totals.addSize received? = .error .tooLarge ∧
        (received?.all fun bytes => (Binary64.ofInt bytes).isFinite) = false := by
  cases received? with
  | none => exact Or.inl ⟨⟨totals.sizes, rfl⟩, rfl⟩
  | some bytes =>
      unfold addSize Number.toDouble?
      simp only [Option.all_some]
      cases (Binary64.ofInt bytes).isFinite with
      | true => exact Or.inl ⟨⟨_, rfl⟩, rfl⟩
      | false => exact Or.inr ⟨rfl, rfl⟩

/-- The transfer that a success adds. -/
theorem addFirstByte_transfer (totals : SuccessTotals) {f : RetrievalFacts} {success : Event}
    (h : f.success = some success) :
    (totals.addFirstByte f success).bytes = totals.bytes + bytesOf f.transfer?.toList ∧
      (totals.addFirstByte f success).seconds
        = secondsFrom totals.seconds f.transfer?.toList := by
  unfold addFirstByte transfer?
  rw [h, Option.bind_some]
  cases f.firstByteOf success with
  | none => exact ⟨(Int.add_zero _).symm, rfl⟩
  | some first =>
      cases success.received? with
      | none => exact ⟨(Int.add_zero _).symm, rfl⟩
      | some bytes =>
          refine ⟨?_, rfl⟩
          show totals.bytes + bytes = totals.bytes + (bytes + 0)
          rw [Int.add_zero]

/-- The facts of a retrieval are added, with its transfer, unless its size is too large. -/
theorem add_cases (totals : SuccessTotals) (f : RetrievalFacts) :
    (∃ totals', totals.add f = .ok totals' ∧
        totals'.bytes = totals.bytes + bytesOf f.transfer?.toList ∧
        totals'.seconds = secondsFrom totals.seconds f.transfer?.toList) ∧ f.sizeFits = true ∨
      totals.add f = .error .tooLarge ∧ f.sizeFits = false := by
  unfold SuccessTotals.add sizeFits RetrievalFacts.received?
  cases hsuccess : f.success with
  | none =>
      have hnone : f.transfer? = none := by
        unfold transfer?
        rw [hsuccess]
        rfl
      rw [hnone]
      exact Or.inl ⟨⟨totals, rfl, (Int.add_zero _).symm, rfl⟩, rfl⟩
  | some success =>
      obtain ⟨counted, hcounted, hbytes, hseconds⟩ : ∃ counted : SuccessTotals,
          (if Transport.isAgnostic success.provider
            then { totals with bitswap := totals.bitswap + 1 }
            else { totals with graphsync := totals.graphsync + 1 }) = counted ∧
          counted.bytes = totals.bytes ∧ counted.seconds = totals.seconds :=
        ⟨_, count_eq totals success.provider, rfl, rfl⟩
      simp only [Option.bind_some, bind, Except.bind, hcounted]
      rw [← hbytes, ← hseconds]
      rcases addSize_cases counted success.received? with ⟨⟨sizes, hsized⟩, hfits⟩ | ⟨hsized, hfits⟩
      · rw [hsized]
        exact Or.inl ⟨⟨_, rfl, addFirstByte_transfer { counted with sizes := sizes } hsuccess⟩, hfits⟩
      · rw [hsized]
        exact Or.inr ⟨rfl, hfits⟩

/-- The facts of all retrievals are added, with their transfers, unless one size is too large. -/
theorem foldlM_add_cases (facts : List RetrievalFacts) (start : SuccessTotals) :
    (∃ totals, facts.foldlM SuccessTotals.add start = .ok totals ∧
        totals.bytes = start.bytes + bytesOf (facts.filterMap transfer?) ∧
        totals.seconds = secondsFrom start.seconds (facts.filterMap transfer?)) ∧
          facts.all sizeFits = true ∨
      facts.foldlM SuccessTotals.add start = .error .tooLarge ∧ facts.all sizeFits = false := by
  induction facts generalizing start with
  | nil => exact Or.inl ⟨⟨start, rfl, (Int.add_zero _).symm, rfl⟩, rfl⟩
  | cons f rest ih =>
      have htransfers : (f :: rest).filterMap transfer?
          = f.transfer?.toList ++ rest.filterMap transfer? := by
        rw [List.filterMap_cons]
        cases f.transfer? <;> rfl
      rw [List.foldlM_cons, List.all_cons, htransfers]
      rcases add_cases start f with ⟨⟨next, hnext, hbytes, hseconds⟩, hfits⟩ | ⟨hfail, hfits⟩
      · rw [hnext, hfits, Bool.true_and]
        rcases ih next with ⟨⟨totals, htotals, hbytes', hseconds'⟩, hall⟩ | ⟨hfail, hall⟩
        · refine Or.inl ⟨⟨totals, htotals, ?_, ?_⟩, hall⟩
          · rw [hbytes', hbytes, bytesOf, bytesOf, bytesOf, List.map_append, List.sum_append,
              Int.add_assoc]
          · rw [hseconds', hseconds, secondsFrom, secondsFrom, secondsFrom, List.foldl_append]
        · exact Or.inr ⟨hfail, hall⟩
      · rw [hfail, hfits, Bool.false_and]
        exact Or.inr ⟨rfl, rfl⟩

/-- There is a bandwidth, or none without transfers, unless the bytes are too large. -/
theorem bandwidth_cases (totals : SuccessTotals) :
    (∃ bandwidth, totals.bandwidth = .ok bandwidth) ∧
        (totals.transfers = 0 ∨ totals.seconds.eq (Binary64.zero false) = true ∨
          (Binary64.ofInt totals.bytes).isFinite = true) ∨
      totals.bandwidth = .error .tooLarge ∧
        ¬(totals.transfers = 0 ∨ totals.seconds.eq (Binary64.zero false) = true ∨
          (Binary64.ofInt totals.bytes).isFinite = true) := by
  unfold bandwidth Number.toDouble?
  by_cases hnone : totals.transfers = 0
  · rw [if_pos hnone]
    exact Or.inl ⟨⟨_, rfl⟩, Or.inl hnone⟩
  rw [if_neg hnone]
  cases hzero : totals.seconds.eq (Binary64.zero false) with
  | true => exact Or.inl ⟨⟨_, rfl⟩, Or.inr (Or.inl rfl)⟩
  | false =>
      cases hfinite : (Binary64.ofInt totals.bytes).isFinite with
      | true =>
          simp only [hfinite]
          exact Or.inl ⟨⟨_, rfl⟩, Or.inr (Or.inr trivial)⟩
      | false =>
          simp only [hfinite]
          exact Or.inr ⟨rfl, by simp [hnone]⟩

end SuccessTotals

/-! ### Reports -/

namespace Report

open RetrievalFacts (transfer? received?_of_transfer sizeFits waitSeconds? size?)
open SuccessTotals (bytesOf secondsFrom)
open Percentile (lastRank)

/-- The numbers that a report has to turn into doubles are not too large for that. -/
structure Representable (facts : List RetrievalFacts) : Prop where
  /-- The size of each download. -/
  sizes : facts.all sizeFits = true
  /-- The bytes of all transfers together, unless there was no transfer or they took no time. -/
  total : facts.filterMap transfer? = [] ∨
    (secondsFrom (Binary64.zero false) (facts.filterMap transfer?)).eq (Binary64.zero false) = true ∨
      (Binary64.ofInt (bytesOf (facts.filterMap transfer?))).isFinite = true
  /-- The last ranks of the two samples. -/
  waits : (lastRank (facts.filterMap waitSeconds?)).isFinite = true
  downloads : (lastRank (facts.filterMap size?)).isFinite = true

theorem transfers_eq_zero_iff {totals : SuccessTotals} {facts : List RetrievalFacts}
    (h : totals.Sums facts) : totals.transfers = 0 ↔ facts.filterMap transfer? = [] := by
  rw [h.transfers, List.countP_eq_zero, List.filterMap_eq_nil_iff]
  refine forall₂_congr fun f _ => ?_
  rw [← RetrievalFacts.isSome_transfer?, Option.not_isSome_iff_eq_none]

/-- There is a report on a log exactly if its numbers are representable. -/
theorem ofLog_cases (log : List Event) :
    (∃ r, ofLog log = .ok r) ∧ Representable ((RetrievalFacts.ofLog log).map (·.2)) ∨
      ofLog log = .error .tooLarge ∧ ¬Representable ((RetrievalFacts.ofLog log).map (·.2)) := by
  unfold ofLog
  generalize (RetrievalFacts.ofLog log).map (·.2) = facts
  simp only [bind, Except.bind]
  rcases SuccessTotals.foldlM_add_cases facts {} with
    ⟨⟨totals, htotals, hbytes, hseconds⟩, hsizes⟩ | ⟨hfail, hsizes⟩
  swap
  · rw [hfail]
    exact Or.inr ⟨rfl, fun h => by simp [h.sizes] at hsizes⟩
  have hsums := SuccessTotals.sums_of_foldlM htotals
  have hnone := transfers_eq_zero_iff hsums
  rw [show ({} : SuccessTotals).bytes = 0 from rfl, Int.zero_add] at hbytes
  have htotal := SuccessTotals.bandwidth_cases totals
  rw [hnone, hbytes, hseconds] at htotal
  rw [htotals]
  dsimp only
  rcases htotal with ⟨⟨bandwidth, hbandwidth⟩, htotal⟩ | ⟨hfail, htotal⟩
  swap
  · rw [hfail]
    exact Or.inr ⟨rfl, fun h => htotal h.total⟩
  rw [hbandwidth, hsums.firstByte, hsums.sizes]
  dsimp only
  rcases Percentile.ofSample_common (facts.filterMap waitSeconds?) with
    ⟨⟨firstByte, hfirstByte⟩, hwaits⟩ | ⟨hfail, hwaits⟩
  swap
  · rw [hfail]
    exact Or.inr ⟨rfl, fun h => by simp [h.waits] at hwaits⟩
  rw [hfirstByte]
  dsimp only
  rcases Percentile.ofSample_common (facts.filterMap size?) with
    ⟨⟨size, hsize⟩, hdownloads⟩ | ⟨hfail, hdownloads⟩
  swap
  · rw [hfail]
    exact Or.inr ⟨rfl, fun h => by simp [h.downloads] at hdownloads⟩
  rw [hsize]
  exact Or.inl ⟨⟨_, rfl⟩, hsizes, htotal, hwaits, hdownloads⟩

/-! ### Logs of ordinary size -/

/-- A size that a retrieval received is that of an event of the log. -/
theorem exists_event_of_received {log : List Event} {f : RetrievalFacts}
    (hf : f ∈ (RetrievalFacts.ofLog log).map (·.2)) {bytes : Int} (h : f.received? = some bytes) :
    ∃ e ∈ log, e.received? = some bytes := by
  have hmem := (RetrievalFacts.facts_perm log (List.Perm.refl _)).mem_iff.mp hf
  obtain ⟨id, -, hfacts⟩ := List.mem_filterMap.mp hmem
  obtain ⟨s, hs, hbytes⟩ := Option.bind_eq_some_iff.mp h
  rw [(RetrievalFacts.gathered_ofEvents? hfacts).success] at hs
  have hs' := List.mem_of_mem_filter (Event.earliest?_spec hs).1
  exact ⟨s, List.mem_of_mem_filter hs', hbytes⟩

theorem length_facts_le (log : List Event) :
    ((RetrievalFacts.ofLog log).map (·.2)).length ≤ log.length := by
  have hkeys := (RetrievalFacts.keys_ofLog log).length_eq
  have hids : (Event.ids log).length ≤ (log.map Event.retrieval).length :=
    (List.dedup_sublist _).length_le
  rw [List.length_map] at hkeys hids ⊢
  omega

/-- Summands that are bounded have a bounded sum. -/
theorem natAbs_bytesOf_le {transfers : List (Int × Duration)} {bound : Nat}
    (h : ∀ t ∈ transfers, t.1.natAbs ≤ bound) :
    (bytesOf transfers).natAbs ≤ transfers.length * bound := by
  induction transfers with
  | nil => simp [bytesOf]
  | cons t rest ih =>
      have hsum : bytesOf (t :: rest) = t.1 + bytesOf rest := by
        unfold bytesOf
        rw [List.map_cons, List.sum_cons]
      have hfirst := h t List.mem_cons_self
      have hrest := ih fun x hx => h x (List.mem_cons_of_mem t hx)
      have hadd := Int.natAbs_add_le t.1 (bytesOf rest)
      rw [hsum, List.length_cons, Nat.succ_mul]
      omega

/-- Summands that stay below a limit even `n` times, of which there are at most `n`, have a sum below
that limit. -/
theorem natAbs_bytesOf_lt {transfers : List (Int × Duration)} {n limit : Nat}
    (hn : transfers.length ≤ n) (hlimit : 0 < limit)
    (h : ∀ t ∈ transfers, n * t.1.natAbs < limit) : (bytesOf transfers).natAbs < limit := by
  -- The largest summand that is allowed bounds all of them.
  have hbound : ∀ t ∈ transfers, t.1.natAbs ≤ (limit - 1) / n := by
    intro t ht
    have hpos : 0 < n := (List.length_pos_of_mem ht).trans_le hn
    rw [Nat.le_div_iff_mul_le hpos, Nat.mul_comm]
    exact Nat.le_sub_one_of_lt (h t ht)
  calc (bytesOf transfers).natAbs ≤ transfers.length * ((limit - 1) / n) :=
        natAbs_bytesOf_le hbound
    _ ≤ n * ((limit - 1) / n) := Nat.mul_le_mul_right _ hn
    _ ≤ limit - 1 := Nat.mul_div_le _ _
    _ < limit := Nat.sub_one_lt hlimit.ne'

/-- The last rank of a sample of ordinary length. -/
theorem isFinite_lastRank {sample : List Binary64} (h : sample.length < 2 ^ 1023) :
    (lastRank sample).isFinite = true := by
  cases sample with
  | nil => decide +kernel
  | cons x rest =>
      refine Binary64.isFinite_ofInt (lt_of_le_of_lt ?_ h)
      rw [List.length_cons]
      omega

/-- If no size times the number of events is enormous, the numbers of the log are representable. -/
theorem representable_of_small {log : List Event} (hlength : log.length < 2 ^ 1023)
    (hsizes : ∀ e ∈ log, ∀ bytes ∈ e.received?, log.length * bytes.natAbs < 2 ^ 1023) :
    Representable ((RetrievalFacts.ofLog log).map (·.2)) := by
  have hfacts := length_facts_le log
  have hevent : ∀ f ∈ (RetrievalFacts.ofLog log).map (·.2), ∀ bytes, f.received? = some bytes →
      log.length * bytes.natAbs < 2 ^ 1023 ∧ 0 < log.length := by
    intro f hf bytes hbytes
    obtain ⟨e, he, hreceived⟩ := exists_event_of_received hf hbytes
    exact ⟨hsizes e he bytes hreceived, List.length_pos_of_mem he⟩
  generalize (RetrievalFacts.ofLog log).map (·.2) = facts at hfacts hevent ⊢
  refine ⟨?_, Or.inr (Or.inr ?_), ?_, ?_⟩
  · rw [List.all_eq_true]
    intro f hf
    unfold sizeFits
    rw [Option.all_eq_true]
    intro bytes hbytes
    obtain ⟨hsmall, hpos⟩ := hevent f hf bytes hbytes
    exact Binary64.isFinite_ofInt ((Nat.le_mul_of_pos_left _ hpos).trans_lt hsmall)
  · refine Binary64.isFinite_ofInt (natAbs_bytesOf_lt ((List.length_filterMap_le _ _).trans hfacts)
      ((Nat.zero_le _).trans_lt hlength) ?_)
    intro t ht
    obtain ⟨f, hf, htransfer⟩ := List.mem_filterMap.mp ht
    exact (hevent f hf t.1 (received?_of_transfer htransfer)).1
  · exact isFinite_lastRank (((List.length_filterMap_le _ _).trans hfacts).trans_lt hlength)
  · exact isFinite_lastRank (((List.length_filterMap_le _ _).trans hfacts).trans_lt hlength)

/-! ### Logs with a history -/

/-- Whatever was done with a new log, it is read, and there is a report on what is read exactly if the
numbers of the events that are stored are representable; otherwise one of them is too large.  Sizes
that are not enormous even when they are multiplied by the number of events are representable. -/
theorem fetched_iff_representable (steps : List LogStep) :
    let log := EventLog.empty.after steps
    let stored := EventLog.sinceWipe (EventLog.empty.succeeded steps)
    let facts := (RetrievalFacts.ofLog stored).map (·.2)
    ∃ read, log.fetchEvents = .ok read ∧
      ((∃ r, ofLog read = .ok r) ↔ Representable facts) ∧
      (¬Representable facts → ofLog read = .error .tooLarge) ∧
      (stored.length < 2 ^ 1023 →
        (∀ e ∈ stored, ∀ bytes ∈ e.received?, stored.length * bytes.natAbs < 2 ^ 1023) →
          Representable facts) := by
  intro log stored facts
  have hread : log.fetchEvents = .ok (stored.map Event.inUtc) :=
    (EventLog.holds_after steps).fetchEvents
  refine ⟨stored.map Event.inUtc, hread, ?_, ?_, representable_of_small⟩
  · rw [ofLog_inUtc]
    rcases ofLog_cases stored with ⟨hreport, hfits⟩ | ⟨hfail, hfits⟩
    · exact iff_of_true hreport hfits
    · rw [hfail]
      refine iff_of_false ?_ hfits
      rintro ⟨r, hr⟩
      cases hr
  · intro hfits
    rw [ofLog_inUtc]
    rcases ofLog_cases stored with ⟨-, hfits'⟩ | ⟨hfail, -⟩
    · exact absurd hfits' hfits
    · exact hfail

/-- A log that was wiped and then given a transfer has a report. -/
theorem fetched_iff_representable_transfer :
    let first : Event :=
      { retrieval := ⟨1⟩, instanceId := "i", cid := "c", provider := "p", phase := .retrieval
        phaseStart := ⟨0, 0⟩, code := .firstByte, time := ⟨1000000, 0⟩, raw := .null }
    let success : Event :=
      { first with code := .success, time := ⟨3000000, 0⟩
                   raw := .object [("receivedSize", .number (.int 4096))] }
    let log := EventLog.empty.after [.insertEvents [success], .wipe, .insertEvents [first, success]]
    ∃ read r, log.fetchEvents = .ok read ∧ ofLog read = .ok r := by
  intro first success log
  obtain ⟨read, hread, hreport, -, hordinary⟩ := fetched_iff_representable
    [.insertEvents [success], .wipe, .insertEvents [first, success]]
  have hstored : EventLog.sinceWipe (EventLog.empty.succeeded
      [.insertEvents [success], .wipe, .insertEvents [first, success]]) = [first, success] := rfl
  rw [hstored] at hreport hordinary
  have hsmall : ∀ k, 14 ≤ k → 8192 < 2 ^ k := fun k hk =>
    lt_of_lt_of_le (by decide) (Nat.pow_le_pow_right Nat.two_pos hk)
  have hlimit := hsmall 1023 (by decide)
  have hfits := hordinary ((by decide : [first, success].length < 8192).trans hlimit) (by
    intro e he bytes hbytes
    have hreceived : e.received?.all fun bytes => 2 * bytes.natAbs ≤ 8192 := by
      simp only [List.mem_cons, List.not_mem_nil, or_false] at he
      rcases he with rfl | rfl <;> decide
    exact lt_of_le_of_lt (of_decide_eq_true ((Option.all_eq_true _ _).mp hreceived bytes hbytes)) hlimit)
  obtain ⟨r, hr⟩ := hreport.mpr hfits
  exact ⟨read, r, hread, hr⟩

/-- A valid batch of one event that is stored and read, but has no report. -/
theorem no_report_on_enormous_size :
    let body : Json := .object [("events", .array [.object [
      ("retrievalId", .string "00000000-0000-4000-8000-000000000001"),
      ("instanceId", .string "i"), ("cid", .string "c"), ("storageProviderId", .string "Bitswap"),
      ("phase", .string "retrieval"), ("phaseStartTime", .string "2023-05-01T12:00:00Z"),
      ("eventName", .string "success"), ("eventTime", .string "2023-05-01T12:00:00Z"),
      ("eventDetails", .object [("receivedSize", .number (.int (10 ^ 400)))])]])]
    ∃ batch log read, Intake.batch Intake.event (some body) = .ok batch ∧
      EventLog.empty.insertEvents batch = .ok (1, log) ∧ log.fetchEvents = .ok read ∧
        ofLog read = .error .tooLarge := by
  intro body
  have hrun : (match Intake.batch Intake.event (some body) with
      | .error _ => false
      | .ok batch =>
        match EventLog.empty.insertEvents batch with
        | .error _ => false
        | .ok (count, log) =>
          count = 1 && match log.fetchEvents with
            | .error _ => false
            | .ok read =>
              match ofLog read with
              | .ok _ => false
              | .error error => error = .tooLarge) = true := by
    decide +kernel
  split at hrun
  · cases hrun
  rename_i batch hbatch
  split at hrun
  · cases hrun
  rename_i count log hstored
  obtain ⟨hcount, hrun⟩ := (Bool.and_eq_true _ _).mp hrun
  obtain rfl := of_decide_eq_true hcount
  split at hrun
  · cases hrun
  rename_i read hread
  split at hrun
  · cases hrun
  rename_i error herror
  obtain rfl := of_decide_eq_true hrun
  exact ⟨batch, log, read, hbatch, hstored, hread, herror⟩

end Report

end RetrievalTelemetry
