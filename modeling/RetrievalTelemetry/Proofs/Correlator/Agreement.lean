/-
The live metrics and the report count the same successes.

The correlator counts a success when it is delivered and finds its retrieval live; that ends the
retrieval.  The report looks at the whole log and counts the earliest success of each retrieval,
live or not.  On arbitrary logs the two differ.  They agree if the events of every retrieval are
orderly: they come in the order of their times, only its own phase reports a success, the indexer
does not fail, and what makes the retrieval live comes before the first success, at least once, and
never after it.

The proof follows one retrieval.  What the correlator tells of it depends only on its track, and of
the track it only matters whether there is one: `heard` is a machine with this one bit of state that
picks out the successes that count.  On orderly events it picks out the first one, which is the
earliest one, so it is the success of the report.  The counts of all retrievals are then added up.
-/
import RetrievalTelemetry.Proofs.Correlator.Separation
import RetrievalTelemetry.Proofs.Metering.Lineage
import RetrievalTelemetry.Proofs.Metering.Success
import RetrievalTelemetry.Proofs.Report.Attempts

namespace RetrievalTelemetry

/-! ### Orderly retrievals -/

namespace Event

/-- Whether an event makes its retrieval live. -/
def begins (e : Event) : Bool :=
  match e.phase, e.code with
  | .indexer, .started => true
  | .indexer, .candidatesFound => e.candidates?.any (0 < ·)
  | .indexer, .candidatesFiltered => e.candidates?.any (0 < ·)
  | .retrieval, .started => true
  | .retrieval, .failure => true
  | .retrieval, .firstByte => true
  | _, _ => false

/-- The events before the first success, all of them if there is no success. -/
def beforeSuccess (events : List Event) : List Event := events.takeWhile fun e => !e.isSuccess

/-- The events from the first success on. -/
def fromSuccess (events : List Event) : List Event := events.dropWhile fun e => !e.isSuccess

/-- Events of one retrieval on which the live metrics and the report agree. -/
structure Orderly (events : List Event) : Prop where
  times : events.Pairwise fun a b => a.time.micros ≤ b.time.micros
  phase : ∀ e ∈ events, e.isSuccess = true → e.phase = .retrieval
  noIndexerFailure : ∀ e ∈ events, e.phase = .indexer → e.code ≠ .failure
  begun : fromSuccess events ≠ [] →
    (∃ e ∈ beforeSuccess events, e.begins = true) ∧ ∀ e ∈ fromSuccess events, e.begins = false

instance (events : List Event) : Decidable (Orderly events) :=
  decidable_of_iff
    ((events.Pairwise fun a b => a.time.micros ≤ b.time.micros) ∧
      (∀ e ∈ events, e.isSuccess = true → e.phase = .retrieval) ∧
      (∀ e ∈ events, e.phase = .indexer → e.code ≠ .failure) ∧
      (fromSuccess events ≠ [] →
        (∃ e ∈ beforeSuccess events, e.begins = true) ∧
          ∀ e ∈ fromSuccess events, e.begins = false))
    ⟨fun ⟨times, phase, failure, begun⟩ => ⟨times, phase, failure, begun⟩,
      fun h => ⟨h.times, h.phase, h.noIndexerFailure, h.begun⟩⟩

end Event

namespace Correlator

open Event (begins isSuccess beforeSuccess fromSuccess Orderly)

/-! ### The successes that count -/

/-- The successes that find their retrieval live, if it is live at first or not. -/
def heard : Bool → List Event → List Event
  | _, [] => []
  | isLive, e :: rest =>
    (if e.isSuccess && isLive then [e] else []) ++
      heard (!e.isSuccess && (isLive || e.begins)) rest

theorem heard_append {before : List Event} (hbefore : ∀ e ∈ before, e.isSuccess = false)
    (isLive : Bool) (rest : List Event) :
    heard isLive (before ++ rest) = heard (isLive || before.any begins) rest := by
  induction before generalizing isLive with
  | nil => simp
  | cons e before ih =>
      obtain ⟨he, hbefore⟩ := List.forall_mem_cons.mp hbefore
      rw [List.cons_append, heard, he, ih hbefore]
      simp [Bool.or_assoc]

/-- A retrieval that is over and does not begin again hears nothing. -/
theorem heard_over {events : List Event} (h : ∀ e ∈ events, e.begins = false) :
    heard false events = [] := by
  induction events with
  | nil => rfl
  | cons e rest ih =>
      obtain ⟨he, hrest⟩ := List.forall_mem_cons.mp h
      rw [heard, he]
      simpa using ih hrest

/-- Of orderly events the first success counts and no other. -/
theorem heard_orderly {events : List Event} (h : Orderly events) :
    heard false events = (events.filter isSuccess).head?.toList := by
  have hbefore : ∀ e ∈ beforeSuccess events, e.isSuccess = false := fun e he => by
    simpa using List.mem_takeWhile_imp he
  have hnone : (beforeSuccess events).filter isSuccess = [] :=
    List.filter_eq_nil_iff.mpr fun e he => by simp [hbefore e he]
  have hsplit : beforeSuccess events ++ fromSuccess events = events :=
    List.takeWhile_append_dropWhile
  have hfirst := List.head?_dropWhile_not (fun e => !e.isSuccess) events
  have hbegun := h.begun
  rw [← hsplit, heard_append hbefore, List.filter_append, hnone, List.nil_append]
  unfold fromSuccess at hbegun ⊢
  cases hrest : events.dropWhile fun e => !e.isSuccess with
  | nil => rfl
  | cons s post =>
      rw [hrest] at hfirst hbegun
      have hs : s.isSuccess = true := by simpa using hfirst
      obtain ⟨⟨e, he, hbegins⟩, hover⟩ := hbegun (List.cons_ne_nil s post)
      have hlive : (beforeSuccess events).any begins = true := List.any_eq_true.mpr ⟨e, he, hbegins⟩
      have hpost := heard_over (List.forall_mem_cons.mp hover).2
      rw [hlive, heard, hs, List.filter_cons_of_pos hs]
      simpa using hpost

end Correlator

/-! ### Counting a success -/

/-- The counter of the successes over a transport; no event names another one. -/
inductive Counter.IsSuccessOver : Counter → Transport → Prop
  | bitswap : IsSuccessOver .bitswapSuccess .bitswap
  | graphsync : IsSuccessOver .graphsyncSuccess .graphsync

namespace Counter.IsSuccessOver

open Update (adds Fair)
open Metering (successUpdates successHead successTransfer)

variable {c : Counter} {t : Transport}

/-- What reports no end counts no success. -/
theorem adds_of_fair (hc : IsSuccessOver c t) {updates : List Update} {complete : Prop}
    (h : Fair updates 0 complete) : adds c updates = 0 := by
  have hends := Update.outcomes_eq updates
  have houtcomes := h.outcomes
  have hsplit := h.split
  cases hc with
  | bitswap => omega
  | graphsync => omega

/-- A success that ends its retrieval is counted for the transport of its provider. -/
theorem adds_successUpdates (hc : IsSuccessOver c t) (e : Event) (p : Progress) :
    adds c (successUpdates e p).1 = (decide (Transport.ofProvider e.provider = t)).toNat := by
  have hhead : adds c (successHead e p)
      = (decide (Transport.ofProvider e.provider = t)).toNat := by
    have hdeal : Histogram.dealDuration ∉ Histogram.perSuccess := by decide
    have hidle := Update.fair_of_idle (Metering.idle_sinceStart hdeal e.time
      (Update.protocol (Transport.ofProvider e.provider).name) p.start) True
    have hsince := hc.adds_of_fair hidle
    unfold successHead
    rw [Update.adds_append, hsince]
    unfold Transport.ofProvider
    cases hc with
    | bitswap => cases Transport.isAgnostic e.provider <;> rfl
    | graphsync => cases Transport.isAgnostic e.provider <;> rfl
  have htransfer : adds c (successTransfer e p).1 = 0 :=
    hc.adds_of_fair (Update.fair_of_idle (Metering.idle_successTransfer e p) True)
  unfold successUpdates
  rcases hsuccess : successTransfer e p with ⟨transfer, fault⟩
  rw [hsuccess] at htransfer
  cases fault with
  | some fault => simp only [Update.adds_append, hhead, htransfer, Nat.add_zero]
  | none =>
      have hlast : adds c (Metering.perRequest p.candidates p.filtered p.failures) = 0 := rfl
      simp only [Update.adds_append, hhead, htransfer, hlast, Nat.add_zero]

end Counter.IsSuccessOver

/-! ### One retrieval in the correlator -/

namespace Metering

/-- The rules of events that neither succeed nor fail the indexer. -/
theorem rule_cases {e : Event} (hsuccess : e.isSuccess = false)
    (hfailure : e.phase = .indexer → e.code ≠ .failure) :
    (e.begins = true ∧ ∃ m told, rule e = .mark m told) ∨
      e.begins = false ∧ ∃ updates, rule e = .tell updates := by
  have hcounted : ∀ make : Int → Action, (∀ count, ∃ m told, make count = .mark m told) →
      ((e.candidates?.any fun count => decide (0 < count)) = true ∧
        ∃ m told, ifCounted e make = .mark m told) ∨
      (e.candidates?.any fun count => decide (0 < count)) = false ∧
        ∃ updates, ifCounted e make = .tell updates := by
    intro make hmake
    unfold ifCounted
    cases e.candidates? with
    | none => exact Or.inr ⟨rfl, [], rfl⟩
    | some count =>
        by_cases hcount : count ≤ 0
        · exact Or.inr ⟨by simpa using hcount, [], by simp [hcount, Action.ignore]⟩
        · exact Or.inl ⟨by simpa using hcount, by simpa [hcount] using hmake count⟩
  have hstarted : ∃ m told, retrievalStarted e = .mark m told := by
    unfold retrievalStarted
    split
    · exact ⟨_, _, rfl⟩
    · exact ⟨_, _, rfl⟩
  unfold Event.isSuccess at hsuccess
  unfold Event.begins rule
  cases hphase : e.phase with
  | indexer =>
      cases hcode : e.code with
      | started => exact Or.inl ⟨rfl, _, _, rfl⟩
      | candidatesFound => exact hcounted _ fun count => ⟨_, _, rfl⟩
      | candidatesFiltered => exact hcounted _ fun count => ⟨_, _, rfl⟩
      | failure => exact absurd hcode (hfailure hphase)
      | _ => exact Or.inr ⟨rfl, _, rfl⟩
  | query => cases e.code <;> exact Or.inr ⟨rfl, _, rfl⟩
  | retrieval =>
      cases hcode : e.code with
      | started => exact Or.inl ⟨rfl, hstarted⟩
      | failure => exact Or.inl ⟨rfl, _, _, rfl⟩
      | firstByte => exact Or.inl ⟨rfl, _, _, rfl⟩
      | success => simp [hcode] at hsuccess
      | _ => exact Or.inr ⟨rfl, _, rfl⟩

end Metering

namespace Correlator

open Event (begins isSuccess ofRetrieval Orderly)
open Update (adds increments)

/-- What the rule of an event makes of a track, as far as successes are concerned. -/
theorem adds_track {counter : Counter} {t : Transport} (hc : counter.IsSuccessOver t) {e : Event}
    (hphase : e.isSuccess = true → e.phase = .retrieval)
    (hfailure : e.phase = .indexer → e.code ≠ .failure) (timeout : Number) (now : Binary64)
    (x : Track) :
    adds counter ((Metering.rule e).track timeout now x).1
        = (if e.isSuccess && x.isSome then [e] else []).countP
            (fun s => Transport.ofProvider s.provider = t) ∧
      ((Metering.rule e).track timeout now x).2.isSome
        = (!e.isSuccess && (x.isSome || e.begins)) := by
  have hfair := Metering.fair_rule e
  cases hsuccess : e.isSuccess with
  | true =>
      have hcode : e.code = .success := of_decide_eq_true hsuccess
      rw [Metering.rule_success (hphase hsuccess) hcode]
      cases x with
      | none => exact ⟨rfl, rfl⟩
      | some x =>
          refine ⟨?_, rfl⟩
          have hadds := hc.adds_successUpdates e x.2
          show adds counter (Metering.successUpdates e x.2).1 = [e].countP _
          rw [hadds, List.countP_singleton]
          cases decide (Transport.ofProvider e.provider = t) <;> rfl
  | false =>
      rcases Metering.rule_cases hsuccess hfailure with
        ⟨hbegins, m, told, hrule⟩ | ⟨hbegins, updates, hrule⟩
      · rw [hrule] at hfair ⊢
        rw [hbegins]
        unfold Action.track
        cases x with
        | some x => exact ⟨hc.adds_of_fair (hfair _ _), rfl⟩
        | none =>
            cases timeout.toDouble? with
            | some lifetime => exact ⟨hc.adds_of_fair (hfair _ _), rfl⟩
            | none => exact ⟨rfl, rfl⟩
      · rw [hrule] at hfair ⊢
        rw [hbegins]
        exact ⟨hc.adds_of_fair hfair, by simp [Action.track]⟩

/-- A run that is fed events and nothing else, each with the reading of the clock at that moment. -/
def fed (steps : List (Binary64 × Event)) : List Step := steps.map fun s => .event s.1 s.2

/-- The updates of a retrieval that is fed events, computed from its track alone. -/
def trackFed (timeout : Number) : Track → List (Binary64 × Event) → List Update
  | _, [] => []
  | x, (now, e) :: rest =>
    ((Metering.rule e).track timeout now x).1 ++
      trackFed timeout ((Metering.rule e).track timeout now x).2 rest

/-- The events of each retrieval are all that the run tells of it. -/
theorem creditedTo_fed (id : Uuid) (steps : List (Binary64 × Event)) :
    ∀ {c : Correlator}, LiveTable.Sound c.table →
      creditedTo id (c.credits (fed steps))
        = trackFed c.table.timeout (c.table.track id) (steps.filter fun s => s.2.retrieval = id) := by
  induction steps with
  | nil =>
      intro c _
      rfl
  | cons s rest ih =>
      obtain ⟨now, e⟩ := s
      intro c hsound
      have htable : (c.step (.event now e)).correlator.table
          = ((Metering.rule e).apply now c.table e.retrieval).table := adopt_table c _
      have htimeout : (c.step (.event now e)).correlator.table.timeout = c.table.timeout := by
        rw [htable]
        exact Action.timeout_apply c.table (Metering.rule e) now e.retrieval
      obtain ⟨htold, htrack⟩ := creditedTo_event hsound now e id
      have hrest := ih (balanced_step hsound (.event now e)).sound
      rw [htimeout, htrack] at hrest
      show creditedTo id (c.stepCredits (.event now e) ++ _) = _
      rw [creditedTo_append, htold]
      refine (congrArg _ hrest).trans ?_
      by_cases hid : e.retrieval = id
      · rw [List.filter_cons_of_pos (by simpa using hid), trackFed, if_pos hid, if_pos hid]
      · rw [List.filter_cons_of_neg (by simpa using hid), if_neg hid, if_neg hid]
        rfl

/-- What is counted for a retrieval is what it hears. -/
theorem adds_trackFed {counter : Counter} {t : Transport} (hc : counter.IsSuccessOver t)
    (timeout : Number) {steps : List (Binary64 × Event)}
    (hphase : ∀ e ∈ steps.map (·.2), e.isSuccess = true → e.phase = .retrieval)
    (hfailure : ∀ e ∈ steps.map (·.2), e.phase = .indexer → e.code ≠ .failure) (x : Track) :
    adds counter (trackFed timeout x steps)
      = (heard x.isSome (steps.map (·.2))).countP fun s => Transport.ofProvider s.provider = t := by
  induction steps generalizing x with
  | nil => rfl
  | cons s rest ih =>
      obtain ⟨now, e⟩ := s
      obtain ⟨hphase, hphases⟩ := List.forall_mem_cons.mp hphase
      obtain ⟨hfailure, hfailures⟩ := List.forall_mem_cons.mp hfailure
      obtain ⟨hadds, hlive⟩ := adds_track hc hphase hfailure timeout now x
      rw [trackFed, Update.adds_append, hadds, ih hphases hfailures, hlive, List.map_cons, heard,
        List.countP_append]

/-! ### All retrievals -/

/-- What a counter gets is what it gets from each retrieval. -/
theorem adds_credits (counter : Counter) (credits : List (Uuid × Update)) (ids : Finset Uuid)
    (hids : ∀ id ∉ ids, creditedTo id credits = []) :
    adds counter (credits.map fun credit => credit.2)
      = ∑ id ∈ ids, adds counter (creditedTo id credits) := by
  have hsum := congrArg (Multiset.countPAddMonoidHom fun u : Update => u.isAdd counter = true)
    (coe_credits credits ids hids)
  rw [map_sum] at hsum
  simpa [Update.adds_eq_countP] using hsum

/-- What passes a test in a list without repetitions, as a sum. -/
theorem countP_eq_sum {α : Type} [DecidableEq α] {l : List α} (hl : l.Nodup) (p : α → Bool) :
    l.countP p = ∑ a ∈ l.toFinset, (p a).toNat := by
  rw [List.sum_toFinset _ hl]
  induction l with
  | nil => rfl
  | cons a l ih =>
      rw [List.countP_cons, ih (List.nodup_cons.mp hl).2, List.map_cons, List.sum_cons,
        Nat.add_comm]
      cases p a <;> rfl

/-- On orderly events the success of the report is the first one. -/
theorem successOver_orderly {events : List Event} (h : Orderly events) (t : Transport) :
    (Event.successOver t events).toNat
      = (events.filter isSuccess).head?.toList.countP
          fun s => Transport.ofProvider s.provider = t := by
  unfold Event.successOver
  rw [Event.earliest?_of_pairwise (h.times.sublist List.filter_sublist)]
  cases (events.filter isSuccess).head? with
  | none => rfl
  | some s =>
      rw [Option.any_some, Option.toList_some, List.countP_singleton]
      cases decide (Transport.ofProvider s.provider = t) <;> rfl

theorem adds_told_fed {counter : Counter} {t : Transport} (hc : counter.IsSuccessOver t)
    {c : Correlator} (hsound : LiveTable.Sound c.table) (hfresh : ∀ id, c.table.track id = none)
    {steps : List (Binary64 × Event)} (hlog : ∀ id, Orderly (ofRetrieval id (steps.map (·.2)))) :
    adds counter (c.told (fed steps))
      = (Event.ids (steps.map (·.2))).countP fun id =>
          Event.successOver t (ofRetrieval id (steps.map (·.2))) := by
  have hown : ∀ id, (steps.filter fun s => s.2.retrieval = id).map (·.2)
      = ofRetrieval id (steps.map (·.2)) := by
    intro id
    unfold ofRetrieval
    rw [List.filter_map]
    rfl
  have hcredited : ∀ id, creditedTo id (c.credits (fed steps))
      = trackFed c.table.timeout none (steps.filter fun s => s.2.retrieval = id) := by
    intro id
    rw [creditedTo_fed id steps hsound, hfresh]
  have habsent : ∀ id ∉ (Event.ids (steps.map (·.2))).toFinset,
      creditedTo id (c.credits (fed steps)) = [] := by
    intro id hid
    have hnil := Event.ofRetrieval_eq_nil_iff.mpr fun hmem => hid (List.mem_toFinset.mpr hmem)
    rw [← hown, List.map_eq_nil_iff] at hnil
    rw [hcredited, hnil]
    rfl
  have hnodup : (Event.ids (steps.map (·.2))).Nodup := List.nodup_dedup _
  rw [← credits_snd, adds_credits counter _ _ habsent, countP_eq_sum hnodup]
  refine Finset.sum_congr rfl fun id _ => ?_
  have horderly := hlog id
  rw [hcredited, successOver_orderly horderly, ← heard_orderly horderly, ← hown]
  rw [← hown] at horderly
  exact adds_trackFed hc c.table.timeout horderly.phase horderly.noIndexerFailure none

/-- A fresh correlator that is fed a log of orderly retrievals counts the successes of the report on
that log, for either transport: it adds one for each. -/
theorem successes_agree {timeout : Number} {capacity : Int} {pool : Pool} {table : LiveTable}
    (hpool : Pool.ofCapacity capacity = .ok pool)
    (htable : LiveTable.ofTimeout timeout pool = .ok table) (resolver : Option Resolver)
    (meter : Option Meter) (steps : List (Binary64 × Event))
    (hlog : ∀ id, Orderly (ofRetrieval id (steps.map (·.2)))) {r : Report}
    (hr : Report.ofLog (steps.map (·.2)) = .ok r) :
    let c : Correlator := { table := table, resolver := resolver, meter := meter }
    increments .bitswapSuccess (c.told (fed steps)) = List.replicate r.bitswapSuccesses 1 ∧
      increments .graphsyncSuccess (c.told (fed steps)) = List.replicate r.graphsyncSuccesses 1 := by
  intro c
  have hsound : LiveTable.Sound c.table := LiveTable.sound_of_ofTimeout hpool htable
  have hfresh : ∀ id, c.table.track id = none := by
    obtain rfl := LiveTable.eq_of_ofTimeout htable
    exact fun _ => rfl
  have hones := (allSuit_told c (fed steps)).increments_eq
  have hbitswap : adds .bitswapSuccess (c.told (fed steps)) = r.bitswapSuccesses :=
    (adds_told_fed .bitswap hsound hfresh hlog).trans (Report.successes_eq hr .bitswap).symm
  have hgraphsync : adds .graphsyncSuccess (c.told (fed steps)) = r.graphsyncSuccesses :=
    (adds_told_fed .graphsync hsound hfresh hlog).trans (Report.successes_eq hr .graphsync).symm
  rw [hones, hones, hbitswap, hgraphsync]
  exact ⟨rfl, rfl⟩

/-- Two interleaved retrievals.  The first one succeeds over bitswap, twice at the same time, and the
second one over graphsync. -/
theorem successes_agree_two :
    let table : LiveTable := { timeout := .int 60, pool := { capacity := 1 } }
    let c : Correlator := { table := table }
    let success : Event := { Event.bare ⟨2⟩ .retrieval .success with provider := "p" }
    let steps : List (Binary64 × Event) :=
      [(.zero false, .bare ⟨1⟩ .indexer .started), (.nan, .bare ⟨2⟩ .retrieval .failure),
       (.zero false, .bare ⟨1⟩ .retrieval .success), (.zero false, success),
       (.zero false, .bare ⟨1⟩ .retrieval .success)]
    ∃ r, Report.ofLog (steps.map (·.2)) = .ok r ∧
      increments .bitswapSuccess (c.told (fed steps)) = List.replicate r.bitswapSuccesses 1 ∧
      increments .graphsyncSuccess (c.told (fed steps)) = List.replicate r.graphsyncSuccesses 1 ∧
      r.bitswapSuccesses = 1 ∧ r.graphsyncSuccesses = 1 := by
  intro table c success steps
  have hpool : Pool.ofCapacity 1 = .ok { capacity := 1 } := rfl
  have htable : LiveTable.ofTimeout (.int 60) { capacity := 1 } = .ok table := rfl
  have hlog : ∀ id, Orderly (ofRetrieval id (steps.map (·.2))) := by
    have hids : Event.ids (steps.map (·.2)) = [⟨2⟩, ⟨1⟩] := by decide
    intro id
    by_cases hid : id ∈ Event.ids (steps.map (·.2))
    · rw [hids, List.mem_cons, List.mem_singleton] at hid
      rcases hid with rfl | rfl
      · decide
      · decide
    · rw [Event.ofRetrieval_eq_nil_iff.mpr hid]
      decide
  obtain ⟨r, hr⟩ : ∃ r, Report.ofLog (steps.map (·.2)) = .ok r := ⟨_, rfl⟩
  obtain ⟨hbitswap, hgraphsync⟩ := successes_agree hpool htable none none steps hlog hr
  have hlengths := And.intro (congrArg List.length hbitswap) (congrArg List.length hgraphsync)
  rw [List.length_replicate, List.length_replicate] at hlengths
  refine ⟨r, hr, hbitswap, hgraphsync, ?_, ?_⟩
  · rw [← hlengths.1]
    decide
  · rw [← hlengths.2]
    decide

end Correlator

end RetrievalTelemetry
