/-
What a report says, without the pass over its log.

The report reads its log once and keeps minima, flags and sums on the way.  Here each of its
numbers has a definition of its own: a set of retrievals, the least of some times, a list with one
item for each retrieval.  `Summarizes` lists them, and a report that exists summarizes its log.

The items of a list come in the order in which the retrievals appear in the log.  Percentiles do not
need it, but the seconds of the transfers are rounded sum by sum, so the bandwidth does.
-/
import Mathlib.Data.Finset.Card
import RetrievalTelemetry.Proofs.Report.Attempts
import RetrievalTelemetry.Proofs.Report.Existence

namespace RetrievalTelemetry

namespace Event

/-! ### The events of one retrieval -/

/-- The success: of the successes the one of least time, and of several such ones the first. -/
def success? (events : List Event) : Option Event :=
  let successes := events.filter isSuccess
  successes.find? fun e => successes.all fun x => e.time.micros ≤ x.time.micros

/-- The least of the times of some events, in microseconds. -/
def leastTime? (events : List Event) : Option Int := (events.map fun e => e.time.micros).min?

/-- When the first byte from the provider of the success came. -/
def firstByteTime? (events : List Event) : Option Int :=
  (success? events).bind fun s =>
    leastTime? (events.filter fun e => e.isFirstByte && e.provider = s.provider)

/-- The time from the first event to that first byte. -/
def wait? (events : List Event) : Option Duration :=
  (firstByteTime? events).bind fun first =>
    (leastTime? events).map fun start => ⟨first - start⟩

/-- The size that the success received. -/
def download? (events : List Event) : Option Int := (success? events).bind received?

/-- The size that the success received, and the time from that first byte to the success. -/
def timedDownload? (events : List Event) : Option (Int × Duration) :=
  (success? events).bind fun s => (firstByteTime? events).bind fun first =>
    s.received?.map fun bytes => (bytes, ⟨s.time.micros - first⟩)

/-! ### A whole log -/

/-- The retrievals with an event that passes a test. -/
def having (p : Event → Bool) (log : List Event) : Finset Uuid :=
  ((log.filter p).map retrieval).toFinset

/-- The retrievals whose success was over a transport. -/
def succeededOver (t : Transport) (log : List Event) : Finset Uuid :=
  (log.map retrieval).toFinset.filter fun id =>
    (success? (ofRetrieval id log)).any fun s => Transport.ofProvider s.provider = t

/-- What the retrievals give, in the order in which they appear. -/
def gather {α : Type} (give : List Event → Option α) (log : List Event) : List α :=
  (log.map retrieval).eraseDups.filterMap fun id => give (ofRetrieval id log)

end Event

namespace Report

open Event (having tries succeededOver gather)
open SuccessTotals (bytesOf secondsFrom)

/-- What the numbers of a report are, given its log. -/
structure Summarizes (r : Report) (log : List Event) : Prop where
  retrievals : r.retrievals = (log.map Event.retrieval).toFinset.card
  attemptedBitswap : r.attemptedBitswap = (having (tries .bitswap) log).card
  attemptedGraphsync : r.attemptedGraphsync = (having (tries .graphsync) log).card
  attemptedBoth : r.attemptedBoth
    = (having (tries .bitswap) log ∩ having (tries .graphsync) log).card
  attemptedEither : r.attemptedEither
    = (having (tries .bitswap) log ∪ having (tries .graphsync) log).card
  pastQuery : r.pastQuery
    = (having (fun e => e.phase = .retrieval && !Transport.isAgnostic e.provider) log).card
  bitswapSuccesses : r.bitswapSuccesses = (succeededOver .bitswap log).card
  graphsyncSuccesses : r.graphsyncSuccesses = (succeededOver .graphsync log).card
  firstByte : Percentile.ofSample ((gather Event.wait? log).map Duration.toSeconds)
    Percentile.common = .ok r.firstByte
  size : Percentile.ofSample ((gather Event.download? log).map Binary64.ofInt)
    Percentile.common = .ok r.size
  bandwidth : r.bandwidth =
    let transfers := gather Event.timedDownload? log
    let seconds := secondsFrom (Binary64.zero false) transfers
    if transfers = [] then none
    else if seconds.eq (Binary64.zero false) then some (Binary64.zero false)
    else some ((Binary64.ofInt (bytesOf transfers)).div seconds)

end Report

/-! ### The facts of one retrieval -/

namespace Event

/-- What stands in front of the earliest event is later. -/
theorem earliest?_split {events : List Event} {e : Event} (h : earliest? events = some e) :
    ∃ front back, events = front ++ e :: back ∧ ∀ x ∈ front, e.time.micros < x.time.micros := by
  induction events using List.reverseRecOn with
  | nil => cases h
  | append_singleton events last ih =>
      rw [earliest?_concat] at h
      rcases earlierOf_cases (earliest? events) last with ⟨hnew, hbefore⟩ | ⟨b, hb, hold, -⟩
      · rw [h] at hnew
        cases hnew
        refine ⟨events, [], rfl, fun x hx => ?_⟩
        obtain ⟨b, hb⟩ := exists_earliest hx
        exact Int.lt_of_lt_of_le (hbefore b hb) ((earliest?_spec hb).2 x hx)
      · rw [h] at hold
        cases hold
        obtain ⟨front, back, rfl, hfront⟩ := ih hb
        exact ⟨front, back ++ [last], by simp, hfront⟩

/-- The earliest event is the first one that none is before. -/
theorem earliest?_eq_find? (events : List Event) :
    earliest? events = events.find? fun e => events.all fun x => e.time.micros ≤ x.time.micros := by
  cases h : earliest? events with
  | none =>
      rw [earliest?_eq_none_iff.mp h]
      rfl
  | some e =>
      obtain ⟨hmem, hleast⟩ := earliest?_spec h
      obtain ⟨front, back, hsplit, hfront⟩ := earliest?_split h
      refine (List.find?_eq_some_iff_append.mpr ⟨?_, front, back, hsplit, fun x hx => ?_⟩).symm
      · simpa using hleast
      · have hlater := hfront x hx
        rw [Bool.not_eq_true', List.all_eq_false]
        exact ⟨e, hmem, by simpa using hlater⟩

/-- The least time is that of the earliest event. -/
theorem leastTime?_eq (events : List Event) :
    leastTime? events = (earliest? events).map fun e => e.time.micros := by
  unfold leastTime?
  cases h : earliest? events with
  | none =>
      rw [earliest?_eq_none_iff.mp h]
      rfl
  | some e =>
      obtain ⟨hmem, hle⟩ := earliest?_spec h
      refine List.min?_eq_some_iff.mpr ⟨List.mem_map_of_mem hmem, fun time htime => ?_⟩
      obtain ⟨x, hx, rfl⟩ := List.mem_map.mp htime
      exact hle x hx

end Event

namespace RetrievalFacts

open Event (leastTime? firstByteTime?)

variable {events : List Event} {f : RetrievalFacts}

theorem Gathered.success_eq (h : Gathered events f) : f.success = Event.success? events := by
  rw [h.success, Event.earliest?_eq_find?]
  rfl

theorem Gathered.leastTime?_eq (h : Gathered events f) : leastTime? events = some f.begin.micros := by
  obtain ⟨e, he, hbegin⟩ := h.begin_mem
  refine List.min?_eq_some_iff.mpr ⟨?_, fun time htime => ?_⟩
  · rw [hbegin]
    exact List.mem_map_of_mem he
  · obtain ⟨x, hx, rfl⟩ := List.mem_map.mp htime
    exact h.begin_le x hx

theorem Gathered.firstByteOf_eq (h : Gathered events f) (s : Event) :
    (f.firstByteOf s).map (fun first => first.time.micros)
      = leastTime? (events.filter fun e => e.isFirstByte && e.provider = s.provider) := by
  have hfirst : f.firstByteOf s
      = Event.earliest? (f.firstBytes.filter fun e => e.provider = s.provider) := rfl
  rw [hfirst, h.firstBytes, List.filter_filter, Event.leastTime?_eq]
  simp only [Bool.and_comm]

theorem Gathered.wait?_eq (h : Gathered events f) : f.wait? = Event.wait? events := by
  unfold RetrievalFacts.wait? Event.wait? firstByteTime?
  rw [← h.success_eq, h.leastTime?_eq]
  cases f.success with
  | none => rfl
  | some s =>
      rw [Option.bind_some, Option.bind_some, ← h.firstByteOf_eq]
      cases f.firstByteOf s <;> rfl

theorem Gathered.transfer?_eq (h : Gathered events f) :
    f.transfer? = Event.timedDownload? events := by
  unfold RetrievalFacts.transfer? Event.timedDownload? firstByteTime?
  rw [← h.success_eq]
  cases f.success with
  | none => rfl
  | some s =>
      rw [Option.bind_some, Option.bind_some, Option.bind_some, ← h.firstByteOf_eq]
      cases f.firstByteOf s <;> rfl

theorem Gathered.received?_eq (h : Gathered events f) : f.received? = Event.download? events := by
  unfold RetrievalFacts.received? Event.download?
  rw [h.success_eq]

/-! ### The facts of all retrievals -/

/-- The facts are kept in the order in which the retrievals appear. -/
theorem keys_eq (log : List Event) :
    (ofLog log).map (·.1) = (log.map Event.retrieval).eraseDups := by
  induction log using List.reverseRecOn with
  | nil => rfl
  | append_singleton log e ih =>
      rw [ofLog_concat, keys_putField, ih, List.map_append, List.eraseDups_append]
      rw [List.map_singleton]
      by_cases hold : e.retrieval ∈ log.map Event.retrieval
      · have hnone : [e.retrieval].removeAll (log.map Event.retrieval) = [] := by
          simpa [List.removeAll, List.filter_cons] using hold
        rw [if_pos (List.mem_eraseDups.mpr hold), hnone, List.eraseDups_nil, List.append_nil]
      · have hone : [e.retrieval].removeAll (log.map Event.retrieval) = [e.retrieval] := by
          simpa [List.removeAll, List.filter_cons] using hold
        rw [if_neg (mt List.mem_eraseDups.mp hold), hone]
        rfl

/-- What the facts of the retrievals give, if it is the same for the events that they are
gathered from. -/
theorem filterMap_ofLog (log : List Event) {α : Type} {g : RetrievalFacts → Option α}
    {give : List Event → Option α} (h : ∀ events f, Gathered events f → g f = give events) :
    ((ofLog log).map (·.2)).filterMap g = Event.gather give log := by
  have hnodup : ((ofLog log).map (·.1)).Nodup :=
    (keys_ofLog log).nodup_iff.mpr (List.nodup_dedup _)
  unfold Event.gather
  rw [map_snd_eq_filterMap hnodup, List.filterMap_filterMap, keys_eq]
  refine List.filterMap_congr fun id hid => ?_
  rw [lookup_ofLog]
  cases hfacts : ofEvents? (Event.ofRetrieval id log) with
  | none =>
      have habsent := Event.ofRetrieval_eq_nil_iff.mp (ofEvents?_eq_none_iff.mp hfacts)
      unfold Event.ids at habsent
      rw [List.mem_dedup] at habsent
      exact absurd (List.mem_eraseDups.mp hid) habsent
  | some f => exact h _ f (gathered_ofEvents? hfacts)

end RetrievalFacts

/-! ### Retrievals that are counted -/

namespace Event

/-- The retrievals whose events pass a test, as a set. -/
theorem countP_ids (log : List Event) (q : List Event → Bool) :
    ((ids log).countP fun id => q (ofRetrieval id log))
      = ((log.map retrieval).toFinset.filter fun id => q (ofRetrieval id log)).card := by
  have hnodup : (ids log).Nodup := List.nodup_dedup _
  have hids : (ids log).toFinset = (log.map retrieval).toFinset := by
    ext id
    simp [ids]
  rw [List.countP_eq_length_filter, ← List.toFinset_card_of_nodup (hnodup.filter _),
    List.toFinset_filter, hids]

theorem mem_having {p : Event → Bool} {log : List Event} {id : Uuid} :
    id ∈ having p log ↔ ∃ e ∈ log, p e = true ∧ e.retrieval = id := by
  unfold having
  simp [and_assoc]

/-- A retrieval has an event that passes a test if one of its events passes it. -/
theorem filter_any (p : Event → Bool) (log : List Event) :
    ((log.map retrieval).toFinset.filter fun id => (ofRetrieval id log).any p) = having p log := by
  ext id
  rw [Finset.mem_filter, mem_having, List.any_eq_true, List.mem_toFinset, List.mem_map]
  constructor
  · rintro ⟨-, e, he, hp⟩
    obtain ⟨he, hid⟩ := List.mem_filter.mp he
    exact ⟨e, he, hp, of_decide_eq_true hid⟩
  · rintro ⟨e, he, hp, hid⟩
    exact ⟨⟨e, he, hid⟩, e, List.mem_filter.mpr ⟨he, decide_eq_true hid⟩, hp⟩

end Event

namespace Report

open Event (ids ofRetrieval having tries succeededOver gather)
open SuccessTotals (bytesOf secondsFrom)
open RetrievalFacts (Gathered countP_ofLog filterMap_ofLog transfer? sizeFits size?)

variable {log : List Event}

/-- Facts that say whether one of the events passes a test. -/
theorem countP_having {p : RetrievalFacts → Bool} {q : Event → Bool}
    (h : ∀ events f, Gathered events f → p f = events.any q) :
    ((RetrievalFacts.ofLog log).map (·.2)).countP p = (having q log).card := by
  rw [countP_ofLog log h, Event.countP_ids log fun events => events.any q, Event.filter_any]

/-- Facts that say whether two tests are passed, or one of them. -/
theorem countP_having_two (log : List Event) {p p' : RetrievalFacts → Bool}
    {q q' : Event → Bool} (h : ∀ events f, Gathered events f → p f = events.any q)
    (h' : ∀ events f, Gathered events f → p' f = events.any q') :
    (((RetrievalFacts.ofLog log).map (·.2)).countP fun f => p f && p' f)
        = (having q log ∩ having q' log).card ∧
      (((RetrievalFacts.ofLog log).map (·.2)).countP fun f => p f || p' f)
        = (having q log ∪ having q' log).card := by
  let both : List Event → Bool := fun events => events.any q && events.any q'
  let either : List Event → Bool := fun events => events.any q || events.any q'
  have hboth : ∀ events f, Gathered events f → (p f && p' f) = both events := fun events f hf => by
    rw [h events f hf, h' events f hf]
  have heither : ∀ events f, Gathered events f → (p f || p' f) = either events :=
    fun events f hf => by rw [h events f hf, h' events f hf]
  rw [countP_ofLog log hboth, countP_ofLog log heither, Event.countP_ids log both,
    Event.countP_ids log either, ← Event.filter_any q, ← Event.filter_any q', ← Finset.filter_and,
    ← Finset.filter_or]
  simp only [both, either, Bool.and_eq_true, Bool.or_eq_true, and_self]

theorem countP_succeeded (t : Transport) :
    ((RetrievalFacts.ofLog log).map (·.2)).countP (RetrievalFacts.succeeded t)
      = (succeededOver t log).card := by
  let succeeds : List Event → Bool := fun events =>
    (Event.success? events).any fun s => Transport.ofProvider s.provider = t
  have hsucceeds : ∀ events f, Gathered events f → f.succeeded t = succeeds events := by
    intro events f hf
    unfold RetrievalFacts.succeeded
    rw [hf.success_eq]
  rw [countP_ofLog log hsucceeds]
  exact Event.countP_ids log succeeds

/-- What the bandwidth is, if there is no error. -/
theorem bandwidth_eq {totals : SuccessTotals} {bandwidth : Option Binary64}
    (h : totals.bandwidth = .ok bandwidth) :
    bandwidth = if totals.transfers = 0 then none
      else if totals.seconds.eq (Binary64.zero false) then some (Binary64.zero false)
      else some ((Binary64.ofInt totals.bytes).div totals.seconds) := by
  unfold SuccessTotals.bandwidth at h
  split at h
  · rename_i hnone
    cases h
    rw [if_pos hnone]
  · rename_i hsome
    rw [if_neg hsome]
    split at h
    · rename_i hzero
      cases h
      rw [if_pos hzero]
    · rename_i hpositive
      rw [if_neg hpositive]
      unfold Number.toDouble? at h
      cases hfinite : (Binary64.ofInt totals.bytes).isFinite <;> simp [hfinite] at h
      exact h.symm

/-- The bandwidth of a report. -/
theorem bandwidth_ofLog {r : Report} (h : ofLog log = .ok r) :
    let transfers := gather Event.timedDownload? log
    let seconds := secondsFrom (Binary64.zero false) transfers
    r.bandwidth = if transfers = [] then none
      else if seconds.eq (Binary64.zero false) then some (Binary64.zero false)
      else some ((Binary64.ofInt (bytesOf transfers)).div seconds) := by
  have htransfers : ((RetrievalFacts.ofLog log).map (·.2)).filterMap transfer?
      = gather Event.timedDownload? log := filterMap_ofLog log fun _ _ hf => hf.transfer?_eq
  unfold ofLog at h
  rw [← htransfers]
  generalize (RetrievalFacts.ofLog log).map (·.2) = facts at h ⊢
  simp only [bind, Except.bind] at h
  rcases SuccessTotals.foldlM_add_cases facts {} with
    ⟨⟨totals, htotals, hbytes, hseconds⟩, -⟩ | ⟨hfail, -⟩
  swap
  · rw [hfail] at h
    cases h
  rw [show ({} : SuccessTotals).bytes = 0 from rfl, Int.zero_add] at hbytes
  rw [htotals] at h
  dsimp only at h
  split at h
  · cases h
  rename_i bandwidth hbandwidth
  split at h
  · cases h
  split at h
  · cases h
  cases h
  have hnone := transfers_eq_zero_iff (SuccessTotals.sums_of_foldlM htotals)
  have hbandwidth := bandwidth_eq hbandwidth
  simp only [hnone, hbytes, hseconds] at hbandwidth
  exact hbandwidth

/-- Every download of a report has a size that fits. -/
theorem sizes_ofLog {r : Report} (h : ofLog log = .ok r) :
    ((RetrievalFacts.ofLog log).map (·.2)).filterMap size?
      = (gather Event.download? log).map Binary64.ofInt := by
  have hfits : ((RetrievalFacts.ofLog log).map (·.2)).all sizeFits = true := by
    rcases ofLog_cases log with ⟨-, hfits⟩ | ⟨hfail, -⟩
    · exact hfits.sizes
    · rw [hfail] at h
      cases h
  have hreceived : ((RetrievalFacts.ofLog log).map (·.2)).filterMap RetrievalFacts.received?
      = gather Event.download? log := filterMap_ofLog log fun _ _ hf => hf.received?_eq
  rw [← hreceived, List.map_filterMap]
  refine List.filterMap_congr fun f hf => ?_
  have hfit := List.all_eq_true.mp hfits f hf
  unfold sizeFits at hfit
  unfold size?
  cases hbytes : f.received? with
  | none => rfl
  | some bytes =>
      rw [hbytes, Option.all_some] at hfit
      simp [Number.toDouble?, hfit]

/-- A report summarizes its log. -/
theorem ofLog_summarizes {r : Report} (h : ofLog log = .ok r) : r.Summarizes log := by
  have htotals := totals_ofLog h
  have hpast : ∀ events f, Gathered events f → f.pastQuery
      = events.any fun e => e.phase = .retrieval && !Transport.isAgnostic e.provider := by
    intro events f hf
    rw [hf.pastQuery]
    refine congrArg events.any ?_
    funext e
    unfold tries Transport.ofProvider
    cases e.phase <;> cases Transport.isAgnostic e.provider <;> rfl
  have hbitswap : ∀ events f, Gathered events f → f.bitswap = events.any (tries .bitswap) :=
    fun _ _ hf => hf.bitswap
  have hgraphsync : ∀ events f, Gathered events f → f.graphsync = events.any (tries .graphsync) :=
    fun _ _ hf => hf.graphsync
  have hwait : ((RetrievalFacts.ofLog log).map (·.2)).filterMap RetrievalFacts.waitSeconds?
      = (gather Event.wait? log).map Duration.toSeconds := by
    rw [← filterMap_ofLog log fun _ _ hf => hf.wait?_eq, List.map_filterMap]
    rfl
  have hretrievals : ((RetrievalFacts.ofLog log).map (·.2)).length
      = (log.map Event.retrieval).toFinset.card := by
    have hkeys := (RetrievalFacts.keys_ofLog log).length_eq
    rw [List.length_map] at hkeys
    rw [List.length_map, hkeys, List.card_toFinset]
    rfl
  obtain ⟨hboth, heither⟩ := countP_having_two log hbitswap hgraphsync
  have hfirstByte := htotals.firstByte
  have hsize := htotals.size
  rw [hwait] at hfirstByte
  rw [sizes_ofLog h] at hsize
  exact
    { retrievals := htotals.retrievals.trans hretrievals
      attemptedBitswap := htotals.attemptedBitswap.trans (countP_having hbitswap)
      attemptedGraphsync := htotals.attemptedGraphsync.trans (countP_having hgraphsync)
      attemptedBoth := htotals.attemptedBoth.trans hboth
      attemptedEither := htotals.attemptedEither.trans heither
      pastQuery := htotals.pastQuery.trans (countP_having hpast)
      bitswapSuccesses := htotals.bitswapSuccesses.trans (countP_succeeded .bitswap)
      graphsyncSuccesses := htotals.graphsyncSuccesses.trans (countP_succeeded .graphsync)
      firstByte := hfirstByte
      size := hsize
      bandwidth := bandwidth_ofLog h }

/-- Two interleaved retrievals.  One succeeds twice with 4096 bytes, the earlier time over graphsync and
two seconds after the first byte from that provider; the indexer named a provider of the other. -/
theorem ofLog_summarizes_two :
    let event : Event :=
      { retrieval := ⟨1⟩, instanceId := "i", cid := "c", provider := "p", phase := .retrieval
        phaseStart := ⟨0, 0⟩, code := .firstByte, time := ⟨0, 0⟩, raw := .null }
    let success : Event :=
      { event with code := .success, raw := .object [("receivedSize", .number (.int 4096))] }
    let log : List Event :=
      [{ success with time := ⟨9000000, 0⟩, provider := "" }, { event with time := ⟨3000000, 0⟩ },
       { event with retrieval := ⟨2⟩, phase := .indexer, code := .candidatesFound },
       { success with time := ⟨5000000, 0⟩ }, { event with time := ⟨2000000, 0⟩, provider := "q" }]
    ∃ r, ofLog log = .ok r ∧ r.retrievals = 2 ∧ r.attemptedEither = 1 ∧ r.attemptedBoth = 1 ∧
      r.graphsyncSuccesses = 1 ∧ r.bitswapSuccesses = 0 ∧
      r.bandwidth = some (Binary64.ofInt 2048) := by
  intro event success log
  have hok : (ofLog log).isOk = true := by decide +kernel
  cases hr : ofLog log with
  | error error =>
      rw [hr] at hok
      cases hok
  | ok r =>
      have hsummary := ofLog_summarizes hr
      refine ⟨r, rfl, hsummary.retrievals.trans ?_, hsummary.attemptedEither.trans ?_,
        hsummary.attemptedBoth.trans ?_, hsummary.graphsyncSuccesses.trans ?_,
        hsummary.bitswapSuccesses.trans ?_, hsummary.bandwidth.trans ?_⟩
      all_goals decide +kernel

end Report

end RetrievalTelemetry
