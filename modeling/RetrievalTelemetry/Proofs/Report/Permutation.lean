/-
A report does not depend on the order of its log.

Of the facts of a retrieval the report reads little: over which transports it was tried, over which
one it succeeded, how much it received and how long it waited.  `View` is this much of the facts.
The facts themselves depend on the order of the events, as the first bytes are kept in the order of
the log and one of two equally early successes is the first one.  But a view does not, as long as
equally early successes of a retrieval name the same provider and report the same.  So permuted
logs have the same views, in another order, and all numbers of the report are counts of views or
percentiles of what they show.

The bandwidth is left out.  It divides by a sum of rounded numbers, and such a sum depends on the
order of its summands.  Whether there is a bandwidth does not.
-/
import RetrievalTelemetry.Proofs.Report.Facts
import RetrievalTelemetry.Proofs.Report.Percentile
import RetrievalTelemetry.Proofs.Report.Totals

namespace RetrievalTelemetry

/-! ### The earliest of permuted events -/

namespace Event

/-- Permuted events have earliest ones of the same time. -/
theorem earliest?_perm {events events' : List Event} (h : events.Perm events') :
    (earliest? events = none ∧ earliest? events' = none) ∨
      ∃ e e', earliest? events = some e ∧ earliest? events' = some e' ∧
        e ∈ events ∧ e' ∈ events ∧ e.time.micros = e'.time.micros := by
  cases he : earliest? events with
  | none =>
      rw [earliest?_eq_none_iff.mp he] at h
      exact Or.inl ⟨rfl, earliest?_eq_none_iff.mpr h.nil_eq.symm⟩
  | some e =>
      right
      cases he' : earliest? events' with
      | none =>
          rw [earliest?_eq_none_iff.mp he'] at h
          rw [earliest?_eq_none_iff.mpr h.eq_nil] at he
          cases he
      | some e' =>
          obtain ⟨hmem, hle⟩ := earliest?_spec he
          obtain ⟨hmem', hle'⟩ := earliest?_spec he'
          have hmem' := h.mem_iff.mpr hmem'
          refine ⟨e, e', rfl, rfl, hmem, hmem', ?_⟩
          have hforth := hle e' hmem'
          have hback := hle' e (h.mem_iff.mp hmem)
          omega

/-- Successes of one retrieval at the same time name the same provider and report the same. -/
def Unambiguous (log : List Event) : Prop :=
  ∀ e ∈ log, ∀ e' ∈ log, e.code = .success → e'.code = .success → e.retrieval = e'.retrieval →
    e.time.micros = e'.time.micros → e.provider = e'.provider ∧ e.detail? = e'.detail?

end Event

/-! ### Views -/

namespace RetrievalFacts

open Event (isSuccess isFirstByte earliest? ofRetrieval Unambiguous)

/-- What a report reads of the facts of a retrieval. -/
structure View where
  bitswap : Bool
  graphsync : Bool
  pastQuery : Bool
  transport? : Option Transport
  received? : Option Int
  wait? : Option Duration

def view (f : RetrievalFacts) : View :=
  { bitswap := f.bitswap
    graphsync := f.graphsync
    pastQuery := f.pastQuery
    transport? := f.success.map fun s => Transport.ofProvider s.provider
    received? := f.received?
    wait? := f.wait? }

theorem Gathered.begin_eq {events events' : List Event} {f f' : RetrievalFacts}
    (h : Gathered events f) (h' : Gathered events' f') (hperm : events.Perm events') :
    f.begin.micros = f'.begin.micros := by
  obtain ⟨e, he, hbegin⟩ := h.begin_mem
  obtain ⟨e', he', hbegin'⟩ := h'.begin_mem
  have hle := h.begin_le e' (hperm.mem_iff.mpr he')
  have hle' := h'.begin_le e (hperm.mem_iff.mp he)
  rw [← hbegin'] at hle
  rw [← hbegin] at hle'
  omega

/-- The first bytes from a provider come at the same time, however the events are permuted. -/
theorem Gathered.wait_eq {events events' : List Event} {f f' : RetrievalFacts}
    (h : Gathered events f) (h' : Gathered events' f') (hperm : events.Perm events')
    {s s' : Event} (hprovider : s.provider = s'.provider) :
    ((f.firstByteOf s).map fun first => first.time.since f.begin)
      = (f'.firstByteOf s').map fun first => first.time.since f'.begin := by
  have hbegin := h.begin_eq h' hperm
  have hfirstBytes : (f.firstBytes.filter fun e => e.provider = s.provider).Perm
      (f'.firstBytes.filter fun e => e.provider = s'.provider) := by
    rw [h.firstBytes, h'.firstBytes, hprovider]
    exact (hperm.filter _).filter _
  have hfirst : f.firstByteOf s
      = earliest? (f.firstBytes.filter fun e => e.provider = s.provider) := rfl
  have hfirst' : f'.firstByteOf s'
      = earliest? (f'.firstBytes.filter fun e => e.provider = s'.provider) := rfl
  rw [hfirst, hfirst']
  rcases Event.earliest?_perm hfirstBytes with
    ⟨hnone, hnone'⟩ | ⟨first, first', hsome, hsome', -, -, htime⟩
  · rw [hnone, hnone']
    rfl
  · rw [hsome, hsome', Option.map_some, Option.map_some, Timestamp.since, Timestamp.since, htime,
      hbegin]

/-- Permuted events of a retrieval give the same view. -/
theorem Gathered.view_eq {events events' : List Event} {f f' : RetrievalFacts}
    (h : Gathered events f) (h' : Gathered events' f') (hperm : events.Perm events')
    (hsame : ∀ e ∈ events, ∀ e' ∈ events, e.code = .success → e'.code = .success →
      e.time.micros = e'.time.micros → e.provider = e'.provider ∧ e.detail? = e'.detail?) :
    f.view = f'.view := by
  have hbitswap : f.bitswap = f'.bitswap := by rw [h.bitswap, h'.bitswap, hperm.any_eq]
  have hgraphsync : f.graphsync = f'.graphsync := by rw [h.graphsync, h'.graphsync, hperm.any_eq]
  have hpastQuery : f.pastQuery = f'.pastQuery := by rw [h.pastQuery, h'.pastQuery, hperm.any_eq]
  have hsuccess := h.success
  have hsuccess' := h'.success
  unfold view received? wait?
  rw [hbitswap, hgraphsync, hpastQuery]
  rcases Event.earliest?_perm (hperm.filter isSuccess) with
    ⟨hnone, hnone'⟩ | ⟨s, s', hsome, hsome', hs, hs', htime⟩
  · rw [hsuccess, hsuccess', hnone, hnone']
    rfl
  · obtain ⟨hs, hcode⟩ := List.mem_filter.mp hs
    obtain ⟨hs', hcode'⟩ := List.mem_filter.mp hs'
    obtain ⟨hprovider, hdetail⟩ :=
      hsame s hs s' hs' (of_decide_eq_true hcode) (of_decide_eq_true hcode') htime
    have hreceived : s.received? = s'.received? := by
      unfold Event.received?
      rw [hdetail]
    rw [hsuccess, hsuccess', hsome, hsome', Option.map_some, Option.map_some, Option.bind_some,
      Option.bind_some, Option.bind_some, Option.bind_some, hprovider, hreceived,
      h.wait_eq h' hperm hprovider]

theorem exists_gathered {log : List Event} {f : RetrievalFacts}
    (h : f ∈ (ofLog log).map (·.2)) : ∃ events, Gathered events f := by
  have hmem := (facts_perm log (List.Perm.refl _)).mem_iff.mp h
  obtain ⟨id, -, hfacts⟩ := List.mem_filterMap.mp hmem
  exact ⟨_, gathered_ofEvents? hfacts⟩

/-- Permuted logs have the same views. -/
theorem views_perm {log log' : List Event} (hperm : log.Perm log') (hlog : Unambiguous log) :
    (((ofLog log).map (·.2)).map view).Perm (((ofLog log').map (·.2)).map view) := by
  have hids : (Event.ids log').Perm (Event.ids log) := by
    unfold Event.ids
    rw [List.perm_ext_iff_of_nodup (List.nodup_dedup _) (List.nodup_dedup _)]
    intro id
    rw [List.mem_dedup, List.mem_dedup, (hperm.map _).mem_iff]
  have hviews : ∀ id, (ofEvents? (ofRetrieval id log)).map view
      = (ofEvents? (ofRetrieval id log')).map view := by
    intro id
    have hevents : (ofRetrieval id log).Perm (ofRetrieval id log') := hperm.filter _
    cases hfacts : ofEvents? (ofRetrieval id log) with
    | none =>
        rw [ofEvents?_eq_none_iff.mp hfacts] at hevents
        rw [hevents.nil_eq.symm]
        rfl
    | some f =>
        cases hfacts' : ofEvents? (ofRetrieval id log') with
        | none =>
            rw [ofEvents?_eq_none_iff.mp hfacts'] at hevents
            rw [hevents.eq_nil] at hfacts
            cases hfacts
        | some f' =>
            refine congrArg some ?_
            refine (gathered_ofEvents? hfacts).view_eq (gathered_ofEvents? hfacts') hevents ?_
            intro e he e' he' hcode hcode' htime
            obtain ⟨he, hid⟩ := List.mem_filter.mp he
            obtain ⟨he', hid'⟩ := List.mem_filter.mp he'
            have hsame := (of_decide_eq_true hid).trans (of_decide_eq_true hid').symm
            exact hlog e he e' he' hcode hcode' hsame htime
  -- Both logs are listed by the retrievals of the first one.
  have hleft := (facts_perm log (List.Perm.refl _)).map view
  have hright := (facts_perm log' hids).map view
  rw [List.map_filterMap] at hleft hright
  simp only [hviews] at hleft
  exact hleft.trans hright.symm

/-- No retrieval waited for less than nothing. -/
theorem isPlain_waitSeconds {log : List Event} {x : Binary64}
    (h : x ∈ ((ofLog log).map (·.2)).filterMap waitSeconds?) : x.IsPlain := by
  obtain ⟨f, hf, hx⟩ := List.mem_filterMap.mp h
  obtain ⟨events, hgathered⟩ := exists_gathered hf
  obtain ⟨d, hd, rfl⟩ := Option.map_eq_some_iff.mp hx
  obtain ⟨s, -, hwait⟩ := Option.bind_eq_some_iff.mp hd
  obtain ⟨first, hfirst, rfl⟩ := Option.map_eq_some_iff.mp hwait
  have hmem : first ∈ f.firstBytes := List.mem_of_mem_filter (Event.earliest?_spec hfirst).1
  rw [hgathered.firstBytes] at hmem
  have hbegin := hgathered.begin_le first (List.mem_of_mem_filter hmem)
  have hsign : decide ((first.time.since f.begin).micros < 0) = false := by
    unfold Timestamp.since
    simpa using hbegin
  unfold Duration.toSeconds
  rw [hsign]
  exact Binary64.isPlain_ofRatio _ (by decide)

theorem isPlain_size {facts : List RetrievalFacts} {x : Binary64}
    (h : x ∈ facts.filterMap size?) : x.IsPlain := by
  obtain ⟨f, -, hx⟩ := List.mem_filterMap.mp h
  obtain ⟨bytes, -, hsize⟩ := Option.bind_eq_some_iff.mp hx
  unfold Number.toDouble? at hsize
  dsimp only at hsize
  split at hsize
  · cases hsize
    exact Binary64.isPlain_ofInt bytes
  · cases hsize

end RetrievalFacts

/-! ### The report -/

namespace Report

open RetrievalFacts (View view succeeded isTransfer waitSeconds? size?)

section Views

variable {facts facts' : List RetrievalFacts}

theorem countP_eq_of_views (h : (facts.map view).Perm (facts'.map view))
    {p : RetrievalFacts → Bool} (q : View → Bool) (hpq : ∀ f, p f = q f.view) :
    facts.countP p = facts'.countP p := by
  obtain rfl : p = q ∘ view := funext hpq
  rw [← List.countP_map, ← List.countP_map]
  exact h.countP_eq q

theorem filterMap_perm_of_views {α : Type} (h : (facts.map view).Perm (facts'.map view))
    {p : RetrievalFacts → Option α} (q : View → Option α) (hpq : ∀ f, p f = q f.view) :
    (facts.filterMap p).Perm (facts'.filterMap p) := by
  obtain rfl : p = q ∘ view := funext hpq
  rw [← List.filterMap_map, ← List.filterMap_map]
  exact h.filterMap q

theorem succeeded_view (t : Transport) (f : RetrievalFacts) :
    succeeded t f = f.view.transport?.any fun u => u = t := by
  unfold succeeded view
  rw [Option.any_map]

/-- The views determine the report but for its bandwidth, if the seconds they show are plain. -/
theorem Totals.eq_of_views {r r' : Report} (h : r.Totals facts) (h' : r'.Totals facts')
    (hviews : (facts.map view).Perm (facts'.map view))
    (hplain : ∀ x ∈ facts.filterMap waitSeconds?, x.IsPlain) :
    { r with bandwidth := r'.bandwidth } = r' ∧ (r.bandwidth = none ↔ r'.bandwidth = none) := by
  have hretrievals : r.retrievals = r'.retrievals := by
    rw [h.retrievals, h'.retrievals, ← List.length_map view, hviews.length_eq, List.length_map]
  have hattemptedBitswap : r.attemptedBitswap = r'.attemptedBitswap := by
    rw [h.attemptedBitswap, h'.attemptedBitswap]
    exact countP_eq_of_views hviews (·.bitswap) fun _ => rfl
  have hattemptedGraphsync : r.attemptedGraphsync = r'.attemptedGraphsync := by
    rw [h.attemptedGraphsync, h'.attemptedGraphsync]
    exact countP_eq_of_views hviews (·.graphsync) fun _ => rfl
  have hattemptedBoth : r.attemptedBoth = r'.attemptedBoth := by
    rw [h.attemptedBoth, h'.attemptedBoth]
    exact countP_eq_of_views hviews (fun v => v.bitswap && v.graphsync) fun _ => rfl
  have hattemptedEither : r.attemptedEither = r'.attemptedEither := by
    rw [h.attemptedEither, h'.attemptedEither]
    exact countP_eq_of_views hviews (fun v => v.bitswap || v.graphsync) fun _ => rfl
  have hbitswapSuccesses : r.bitswapSuccesses = r'.bitswapSuccesses := by
    rw [h.bitswapSuccesses, h'.bitswapSuccesses]
    exact countP_eq_of_views hviews (fun v => v.transport?.any fun u => u = .bitswap)
      (succeeded_view .bitswap)
  have hgraphsyncSuccesses : r.graphsyncSuccesses = r'.graphsyncSuccesses := by
    rw [h.graphsyncSuccesses, h'.graphsyncSuccesses]
    exact countP_eq_of_views hviews (fun v => v.transport?.any fun u => u = .graphsync)
      (succeeded_view .graphsync)
  have hpastQuery : r.pastQuery = r'.pastQuery := by
    rw [h.pastQuery, h'.pastQuery]
    exact countP_eq_of_views hviews (·.pastQuery) fun _ => rfl
  have hfirstByte : r.firstByte = r'.firstByte := by
    have hsample := filterMap_perm_of_views hviews
      (fun v => v.wait?.map Duration.toSeconds) fun _ => rfl
    have hsame := Percentile.ofSample_eq_of_perm hsample hplain Percentile.common
    exact Except.ok.inj (h.firstByte.symm.trans (hsame.trans h'.firstByte))
  have hsize : r.size = r'.size := by
    have hsample := filterMap_perm_of_views hviews
      (fun v => v.received?.bind fun bytes => (Number.int bytes).toDouble?) fun _ => rfl
    have hsame := Percentile.ofSample_eq_of_perm hsample
      (fun x hx => RetrievalFacts.isPlain_size hx) Percentile.common
    exact Except.ok.inj (h.size.symm.trans (hsame.trans h'.size))
  have htransfers : facts.countP isTransfer = facts'.countP isTransfer :=
    countP_eq_of_views hviews (fun v => v.received?.isSome && v.wait?.isSome) fun _ => rfl
  refine ⟨?_, by rw [h.bandwidth, h'.bandwidth, htransfers]⟩
  rw [hretrievals, hattemptedBitswap, hattemptedGraphsync, hattemptedBoth, hattemptedEither,
    hbitswapSuccesses, hgraphsyncSuccesses, hfirstByte, hsize, hpastQuery]

end Views

/-- The reports on two permuted logs agree on everything but the bandwidth, and on whether there is a
bandwidth. -/
theorem ofLog_eq_of_perm {log log' : List Event} {r r' : Report} (hperm : log.Perm log')
    (hlog : Event.Unambiguous log) (h : ofLog log = .ok r) (h' : ofLog log' = .ok r') :
    { r with bandwidth := r'.bandwidth } = r' ∧ (r.bandwidth = none ↔ r'.bandwidth = none) :=
  (totals_ofLog h).eq_of_views (totals_ofLog h') (RetrievalFacts.views_perm hperm hlog)
    fun _ hx => RetrievalFacts.isPlain_waitSeconds hx

/-- The events of a transfer and of a retrieval that is only started, in both directions: both reports
have a bandwidth, and otherwise they are the same. -/
theorem ofLog_eq_of_perm_reversed :
    let started : Event :=
      { retrieval := ⟨1⟩, instanceId := "i", cid := "c", provider := "p", phase := .retrieval
        phaseStart := ⟨0, 0⟩, code := .started, time := ⟨0, 0⟩, raw := .null }
    let first := { started with code := .firstByte, time := ⟨1000000, 0⟩ }
    let success :=
      { started with code := .success, time := ⟨3000000, 0⟩
                     raw := .object [("receivedSize", .number (.int 4096))] }
    let log := [started, first, success, { started with retrieval := ⟨2⟩ }]
    ∃ r r', ofLog log = .ok r ∧ ofLog log.reverse = .ok r' ∧
      { r with bandwidth := r'.bandwidth } = r' ∧ r.bandwidth ≠ none ∧ r'.bandwidth ≠ none := by
  intro started first success log
  have hbandwidth : ((ofLog log).toOption.bind (·.bandwidth)).isSome = true := by decide +kernel
  have hreversed : (ofLog log.reverse).isOk = true := by decide +kernel
  have hlog : Event.Unambiguous log := by
    have hsuccess : ∀ e ∈ log, e.code = .success → e = success := by
      simp [log, started, first, success]
    intro e he e' he' hcode hcode' _ _
    rw [hsuccess e he hcode, hsuccess e' he' hcode']
    exact ⟨rfl, rfl⟩
  cases h : ofLog log with
  | error => simp [h, Except.toOption] at hbandwidth
  | ok r =>
      cases h' : ofLog log.reverse with
      | error => simp [h', Except.isOk, Except.toBool] at hreversed
      | ok r' =>
          obtain ⟨hsame, hnone⟩ := ofLog_eq_of_perm log.reverse_perm.symm hlog h h'
          have hsome : r.bandwidth ≠ none := by
            simpa [h, Except.toOption, Option.isSome_iff_ne_none] using hbandwidth
          exact ⟨r, r', rfl, rfl, hsame, hsome, fun hr' => hsome (hnone.mpr hr')⟩

end Report

end RetrievalTelemetry
