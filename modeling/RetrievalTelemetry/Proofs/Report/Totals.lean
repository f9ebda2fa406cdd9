/-
What the numbers of a report add up.

A report makes one pass over the facts of the retrievals.  `Report.Totals` says what each of its
numbers is, given the list of these facts: how many of them pass a test, or the percentiles of what
they show.  Of the bandwidth it only says whether there is one; the sum of the seconds is rounded
at every step, so it depends on the order of the facts as nothing else does.
-/
import RetrievalTelemetry.Report.Basic

namespace RetrievalTelemetry

namespace RetrievalFacts

/-- Whether the retrieval succeeded over a transport. -/
def succeeded (t : Transport) (f : RetrievalFacts) : Bool :=
  f.success.any fun s => Transport.ofProvider s.provider = t

/-- The bytes that its success brought. -/
def received? (f : RetrievalFacts) : Option Int := f.success.bind Event.received?

/-- How long it waited for the first byte from the provider that succeeded. -/
def wait? (f : RetrievalFacts) : Option Duration :=
  f.success.bind fun s => (f.firstByteOf s).map fun first => first.time.since f.begin

/-- Whether it was a transfer from a first byte to an end, of a known size. -/
def isTransfer (f : RetrievalFacts) : Bool := f.received?.isSome && f.wait?.isSome

/-- The seconds to the first byte. -/
def waitSeconds? (f : RetrievalFacts) : Option Binary64 := f.wait?.map Duration.toSeconds

/-- The size as a double, if it is not too large for one. -/
def size? (f : RetrievalFacts) : Option Binary64 :=
  f.received?.bind fun bytes => (Number.int bytes).toDouble?

end RetrievalFacts

namespace SuccessTotals

open RetrievalFacts (succeeded isTransfer waitSeconds? size?)

/-- What the sums over some facts are. -/
structure Sums (totals : SuccessTotals) (facts : List RetrievalFacts) : Prop where
  bitswap : totals.bitswap = facts.countP (succeeded .bitswap)
  graphsync : totals.graphsync = facts.countP (succeeded .graphsync)
  transfers : totals.transfers = facts.countP isTransfer
  firstByte : totals.firstByte = facts.filterMap waitSeconds?
  sizes : totals.sizes = facts.filterMap size?

theorem sums_nil : Sums {} [] := ⟨rfl, rfl, rfl, rfl, rfl⟩

theorem countP_concat {α : Type} (p : α → Bool) (l : List α) (a : α) :
    (l ++ [a]).countP p = l.countP p + (p a).toNat := by
  rw [List.countP_append, List.countP_singleton]
  cases p a <;> rfl

theorem filterMap_concat {α β : Type} (g : α → Option β) (l : List α) (a : α) :
    (l ++ [a]).filterMap g = l.filterMap g ++ (g a).toList := by
  rw [List.filterMap_append, List.filterMap_cons]
  cases g a <;> rfl

theorem addSize_eq {totals totals' : SuccessTotals} {received? : Option Int}
    (h : totals.addSize received? = .ok totals') :
    totals' = { totals with
      sizes := totals.sizes ++ (received?.bind fun bytes => (Number.int bytes).toDouble?).toList } := by
  unfold addSize at h
  split at h
  · cases h
    simp
  · split at h
    · cases h
    · rename_i size hsize
      cases h
      simp [hsize]

theorem addFirstByte_frame (totals : SuccessTotals) (f : RetrievalFacts) (success : Event) :
    (totals.addFirstByte f success).bitswap = totals.bitswap ∧
      (totals.addFirstByte f success).graphsync = totals.graphsync ∧
      (totals.addFirstByte f success).sizes = totals.sizes := by
  unfold addFirstByte
  cases f.firstByteOf success with
  | none => exact ⟨rfl, rfl, rfl⟩
  | some first => cases success.received? <;> exact ⟨rfl, rfl, rfl⟩

theorem addFirstByte_eq (totals : SuccessTotals) (f : RetrievalFacts) (success : Event) :
    (totals.addFirstByte f success).firstByte
        = totals.firstByte ++ ((f.firstByteOf success).map fun first =>
            (first.time.since f.begin).toSeconds).toList ∧
      (totals.addFirstByte f success).transfers
        = totals.transfers
          + (success.received?.isSome && (f.firstByteOf success).isSome).toNat := by
  unfold addFirstByte
  cases f.firstByteOf success with
  | none => simp
  | some first => cases success.received? <;> simp

/-- A success counts for the transport of its provider. -/
theorem count_eq (totals : SuccessTotals) (provider : String) :
    (if Transport.isAgnostic provider then { totals with bitswap := totals.bitswap + 1 }
      else { totals with graphsync := totals.graphsync + 1 })
      = { totals with
          bitswap := totals.bitswap + (decide (Transport.ofProvider provider = .bitswap)).toNat
          graphsync :=
            totals.graphsync + (decide (Transport.ofProvider provider = .graphsync)).toNat } := by
  unfold Transport.ofProvider
  cases Transport.isAgnostic provider <;> rfl

/-- What the facts of one retrieval add to each sum. -/
theorem add_eq {totals totals' : SuccessTotals} {f : RetrievalFacts}
    (h : totals.add f = .ok totals') :
    totals'.bitswap = totals.bitswap + (f.succeeded .bitswap).toNat ∧
      totals'.graphsync = totals.graphsync + (f.succeeded .graphsync).toNat ∧
      totals'.transfers = totals.transfers + f.isTransfer.toNat ∧
      totals'.firstByte = totals.firstByte ++ f.waitSeconds?.toList ∧
      totals'.sizes = totals.sizes ++ f.size?.toList := by
  unfold SuccessTotals.add at h
  unfold succeeded isTransfer waitSeconds? size? RetrievalFacts.received? RetrievalFacts.wait?
  cases hsuccess : f.success with
  | none =>
      rw [hsuccess] at h
      cases h
      simp
  | some success =>
      rw [hsuccess] at h
      simp only [bind, Except.bind, count_eq] at h
      split at h
      · cases h
      rename_i sized hsized
      cases h
      obtain ⟨hbitswap, hgraphsync, hsizes⟩ := addFirstByte_frame sized f success
      obtain ⟨hfirst, htransfers⟩ := addFirstByte_eq sized f success
      have hsized := addSize_eq hsized
      rw [hbitswap, hgraphsync, htransfers, hfirst, hsizes, hsized, Option.bind_some,
        Option.bind_some, Option.isSome_map, Option.map_map]
      exact ⟨rfl, rfl, rfl, rfl, rfl⟩

/-- Adding the facts of one retrieval. -/
theorem Sums.add {totals totals' : SuccessTotals} {facts : List RetrievalFacts}
    (s : Sums totals facts) {f : RetrievalFacts} (h : totals.add f = .ok totals') :
    Sums totals' (facts ++ [f]) := by
  obtain ⟨hbitswap, hgraphsync, htransfers, hfirstByte, hsizes⟩ := add_eq h
  exact
    { bitswap := by rw [hbitswap, s.bitswap, countP_concat]
      graphsync := by rw [hgraphsync, s.graphsync, countP_concat]
      transfers := by rw [htransfers, s.transfers, countP_concat]
      firstByte := by rw [hfirstByte, s.firstByte, filterMap_concat]
      sizes := by rw [hsizes, s.sizes, filterMap_concat] }

theorem sums_of_foldlM {facts : List RetrievalFacts} {totals : SuccessTotals}
    (h : facts.foldlM SuccessTotals.add {} = .ok totals) : Sums totals facts := by
  have hgeneral : ∀ (rest done : List RetrievalFacts) (start : SuccessTotals), Sums start done →
      rest.foldlM SuccessTotals.add start = .ok totals → Sums totals (done ++ rest) := by
    intro rest
    induction rest with
    | nil =>
        intro done start hstart h
        cases h
        rwa [List.append_nil]
    | cons f rest ih =>
        intro done start hstart h
        rw [List.foldlM_cons] at h
        simp only [bind, Except.bind] at h
        split at h
        · cases h
        · rename_i next hnext
          rw [← List.singleton_append, ← List.append_assoc]
          exact ih (done ++ [f]) next (hstart.add hnext) h
  exact hgeneral facts [] {} sums_nil h

end SuccessTotals

namespace Report

open RetrievalFacts (succeeded isTransfer waitSeconds? size?)

/-- What the numbers of a report are, given the facts of all retrievals. -/
structure Totals (r : Report) (facts : List RetrievalFacts) : Prop where
  retrievals : r.retrievals = facts.length
  attemptedBitswap : r.attemptedBitswap = facts.countP (·.bitswap)
  attemptedGraphsync : r.attemptedGraphsync = facts.countP (·.graphsync)
  attemptedBoth : r.attemptedBoth = facts.countP fun f => f.bitswap && f.graphsync
  attemptedEither : r.attemptedEither = facts.countP fun f => f.bitswap || f.graphsync
  bitswapSuccesses : r.bitswapSuccesses = facts.countP (succeeded .bitswap)
  graphsyncSuccesses : r.graphsyncSuccesses = facts.countP (succeeded .graphsync)
  bandwidth : r.bandwidth = none ↔ facts.countP isTransfer = 0
  firstByte : Percentile.ofSample (facts.filterMap waitSeconds?) Percentile.common
    = .ok r.firstByte
  size : Percentile.ofSample (facts.filterMap size?) Percentile.common = .ok r.size
  pastQuery : r.pastQuery = facts.countP (·.pastQuery)

theorem bandwidth_eq_none_iff {totals : SuccessTotals} {bandwidth : Option Binary64}
    (h : totals.bandwidth = .ok bandwidth) : bandwidth = none ↔ totals.transfers = 0 := by
  unfold SuccessTotals.bandwidth at h
  split at h
  · rename_i hnone
    cases h
    exact iff_of_true rfl hnone
  · rename_i hsome
    refine iff_of_false ?_ hsome
    rintro rfl
    split at h
    · cases h
    · split at h <;> cases h

theorem totals_ofLog {log : List Event} {r : Report} (h : Report.ofLog log = .ok r) :
    r.Totals ((RetrievalFacts.ofLog log).map (·.2)) := by
  unfold Report.ofLog at h
  simp only [bind, Except.bind] at h
  split at h
  · cases h
  rename_i totals htotals
  split at h
  · cases h
  rename_i bandwidth hbandwidth
  split at h
  · cases h
  rename_i firstByte hfirstByte
  split at h
  · cases h
  rename_i size hsize
  cases h
  have hsums := SuccessTotals.sums_of_foldlM htotals
  rw [hsums.firstByte] at hfirstByte
  rw [hsums.sizes] at hsize
  exact
    { retrievals := rfl
      attemptedBitswap := rfl
      attemptedGraphsync := rfl
      attemptedBoth := rfl
      attemptedEither := rfl
      bitswapSuccesses := hsums.bitswap
      graphsyncSuccesses := hsums.graphsync
      bandwidth := by rw [bandwidth_eq_none_iff hbandwidth, hsums.transfers]
      firstByte := hfirstByte
      size := hsize
      pastQuery := rfl }

end Report

end RetrievalTelemetry
