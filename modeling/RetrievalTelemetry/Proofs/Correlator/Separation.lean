/-
Retrievals do not meddle with each other.

Retrievals share the pool of slots and the queue of deadlines, so it is not plain that what one of
them reports is independent of the others.  It is: the updates of a run are those of the runs that
have the events of one retrieval only, put together.  Nothing is said of their order, which
depends on how the events of different retrievals follow each other.

A script leaves the clock to itself: it begins at some reading and advances.  Whether an amount is
negative, infinite or a NaN makes no difference, since a clock that is lost stays lost for all
retrievals alike.
-/
import Mathlib.Algebra.BigOperators.Group.Finset.Piecewise
import Mathlib.Algebra.Order.Group.Multiset
import RetrievalTelemetry.Proofs.Correlator.Run

namespace RetrievalTelemetry

namespace Correlator

/-! ### Scripts -/

/-- A step of a run with a clock of its own. -/
inductive ScriptStep where
  | event (e : Event)
  | advance (seconds : Binary64)
  | expire

/-- The steps of a script with the readings of its clock, which begins at `now`. -/
def stamped (now : Binary64) : List ScriptStep → List Step
  | [] => []
  | .event e :: rest => .event now e :: stamped now rest
  | .advance seconds :: rest => stamped (now.add seconds) rest
  | .expire :: rest => .expire now :: stamped now rest

/-- The retrievals that occur in a script. -/
def retrievals (script : List ScriptStep) : List Uuid :=
  script.filterMap fun
    | .event e => some e.retrieval
    | _ => none

/-- A script without the events of other retrievals. -/
def restricted (id : Uuid) (script : List ScriptStep) : List ScriptStep :=
  script.filter fun
    | .event e => e.retrieval = id
    | _ => true

/-- The updates that a script gives for one retrieval, computed from its track alone. -/
def trackTold (timeout : Number) (id : Uuid) : Binary64 → Track → List ScriptStep → List Update
  | _, _, [] => []
  | now, x, .event e :: rest =>
    if e.retrieval = id then
      ((Metering.rule e).track timeout now x).1
        ++ trackTold timeout id now ((Metering.rule e).track timeout now x).2 rest
    else trackTold timeout id now x rest
  | now, x, .advance seconds :: rest => trackTold timeout id (now.add seconds) x rest
  | now, x, .expire :: rest => (x.expire now).1 ++ trackTold timeout id now (x.expire now).2 rest

/-- The updates that are about one retrieval. -/
def creditedTo (id : Uuid) (credits : List (Uuid × Update)) : List Update :=
  (credits.filter fun credit => credit.1 = id).map fun credit => credit.2

theorem creditedTo_append (id : Uuid) (a b : List (Uuid × Update)) :
    creditedTo id (a ++ b) = creditedTo id a ++ creditedTo id b := by
  simp [creditedTo]

theorem creditedTo_map (id id' : Uuid) (updates : List Update) :
    creditedTo id (updates.map fun u => (id', u)) = if id' = id then updates else [] := by
  unfold creditedTo
  rw [List.filter_map, List.map_map]
  by_cases hid : id' = id
  · simp [Function.comp_def, hid]
  · simp [Function.comp_def, hid]

/-- An event tells of its own retrieval what the track of that says, and of others nothing. -/
theorem creditedTo_event {c : Correlator} (hsound : LiveTable.Sound c.table) (now : Binary64)
    (e : Event) (id : Uuid) :
    creditedTo id (c.stepCredits (.event now e))
        = (if e.retrieval = id then
            ((Metering.rule e).track c.table.timeout now (c.table.track id)).1 else []) ∧
      (c.step (.event now e)).correlator.table.track id
        = if e.retrieval = id then
            ((Metering.rule e).track c.table.timeout now (c.table.track id)).2
          else c.table.track id := by
  have htable : (c.step (.event now e)).correlator.table
      = ((Metering.rule e).apply now c.table e.retrieval).table := adopt_table c _
  have hcredits : c.stepCredits (.event now e)
      = ((Metering.rule e).apply now c.table e.retrieval).updates.map fun u => (e.retrieval, u) :=
    congrArg (List.map _) (adopt_updates c _)
  obtain ⟨htold, htrack⟩ := (Metering.rule e).apply_track hsound now e.retrieval
  rw [htable, hcredits, creditedTo_map, htold, htrack]
  by_cases hid : e.retrieval = id
  · simp [hid]
  · simp [hid, Ne.symm hid]

/-- An expiry tells of each retrieval what its track says. -/
theorem creditedTo_expire {c : Correlator} (hsound : LiveTable.Sound c.table) {now : Binary64}
    (htimely : LiveTable.Timely now c.table) (id : Uuid) :
    creditedTo id (c.stepCredits (.expire now)) = ((c.table.track id).expire now).1 ∧
      (c.step (.expire now)).correlator.table.track id = ((c.table.track id).expire now).2 := by
  have htable : (c.step (.expire now)).correlator.table = (c.table.expire now).2 :=
    adopt_table c _
  obtain ⟨htold, htrack⟩ := hsound.track_expire htimely.due id
  refine ⟨?_, by rw [htable]; exact htrack⟩
  unfold creditedTo stepCredits
  rw [← htold, List.filter_map, List.map_map]
  rfl

/-- What a run tells of a retrieval is what its track says. -/
theorem creditedTo_credits (id : Uuid) (script : List ScriptStep) :
    ∀ {now : Binary64} {c : Correlator}, LiveTable.Sound c.table → LiveTable.Timely now c.table →
      creditedTo id (c.credits (stamped now script))
        = trackTold c.table.timeout id now (c.table.track id) script := by
  induction script with
  | nil =>
      intro now c _ _
      rfl
  | cons s rest ih =>
      intro now c hsound htimely
      cases s with
      | advance seconds => exact ih hsound (htimely.advance seconds)
      | event e =>
          have htable : (c.step (.event now e)).correlator.table
              = ((Metering.rule e).apply now c.table e.retrieval).table := adopt_table c _
          obtain ⟨htimely', htimeout⟩ := htimely.apply (Metering.rule e) e.retrieval
          obtain ⟨htold, htrack⟩ := creditedTo_event hsound now e id
          rw [← htable] at htimely' htimeout
          have hrest := ih (balanced_step hsound (.event now e)).sound htimely'
          rw [htimeout, htrack] at hrest
          rw [stamped, credits, creditedTo_append, htold, hrest, trackTold]
          split
          · rfl
          · rfl
      | expire =>
          have htable : (c.step (.expire now)).correlator.table = (c.table.expire now).2 :=
            adopt_table c _
          have htimely' := htimely.of_subset (hsound.timeout_expire now)
            fun d hd => hsound.queue_expire hd
          obtain ⟨htold, htrack⟩ := creditedTo_expire hsound htimely id
          rw [← htable] at htimely'
          have htimeout : (c.step (.expire now)).correlator.table.timeout = c.table.timeout := by
            rw [htable]
            exact hsound.timeout_expire now
          have hrest := ih (balanced_step hsound (.expire now)).sound htimely'
          rw [htimeout, htrack] at hrest
          rw [stamped, credits, creditedTo_append, htold, hrest, trackTold]

/-! ### Leaving out the other retrievals -/

/-- The track of a retrieval does not see the events of others. -/
theorem trackTold_restricted (timeout : Number) (id : Uuid) (script : List ScriptStep) :
    ∀ now x, trackTold timeout id now x (restricted id script)
      = trackTold timeout id now x script := by
  induction script with
  | nil =>
      intro now x
      rfl
  | cons s rest ih =>
      intro now x
      cases s with
      | advance seconds => exact ih (now.add seconds) x
      | expire =>
          show _ ++ trackTold timeout id now _ (restricted id rest) = _
          rw [ih, trackTold]
      | event e =>
          unfold restricted
          by_cases hid : e.retrieval = id
          · rw [List.filter_cons_of_pos (by simpa using hid)]
            show trackTold timeout id now x (.event e :: restricted id rest) = _
            rw [trackTold, trackTold, if_pos hid, if_pos hid, ih]
          · rw [List.filter_cons_of_neg (by simpa using hid)]
            show trackTold timeout id now x (restricted id rest) = _
            rw [ih, trackTold, if_neg hid]

/-- Nothing is told of a retrieval that does not occur. -/
theorem trackTold_absent (timeout : Number) (id : Uuid) (script : List ScriptStep) :
    ∀ now, id ∉ retrievals script → trackTold timeout id now none script = [] := by
  induction script with
  | nil =>
      intro now _
      rfl
  | cons s rest ih =>
      intro now habsent
      cases s with
      | advance seconds => exact ih (now.add seconds) habsent
      | expire => exact ih now habsent
      | event e =>
          have hsplit : id ≠ e.retrieval ∧ id ∉ retrievals rest := by
            simpa [retrievals] using habsent
          rw [trackTold, if_neg (Ne.symm hsplit.1)]
          exact ih now hsplit.2

/-- Updates are those of the retrievals that they are about, put together. -/
theorem coe_credits (credits : List (Uuid × Update)) (ids : Finset Uuid)
    (hids : ∀ id ∉ ids, creditedTo id credits = []) :
    ((credits.map fun credit => credit.2 : List Update) : Multiset Update)
      = ∑ id ∈ ids, (creditedTo id credits : Multiset Update) := by
  induction credits with
  | nil => simp [creditedTo]
  | cons credit rest ih =>
      obtain ⟨id', u⟩ := credit
      have hcons : ∀ id, creditedTo id ((id', u) :: rest)
          = (if id' = id then [u] else []) ++ creditedTo id rest := fun id =>
        creditedTo_append id [(id', u)] rest |>.trans
          (congrArg (· ++ creditedTo id rest) (creditedTo_map id id' [u]))
      have hmem : id' ∈ ids := by
        by_contra hno
        have hnil := hids id' hno
        rw [hcons, if_pos rfl] at hnil
        cases hnil
      have hrest : ∀ id ∉ ids, creditedTo id rest = [] := fun id hno =>
        (List.append_eq_nil_iff.mp ((hcons id).symm.trans (hids id hno))).2
      have hone : ∑ id ∈ ids, ((if id' = id then [u] else [] : List Update) : Multiset Update)
          = {u} := by
        rw [Finset.sum_eq_single_of_mem id' hmem]
        · rw [if_pos rfl]
          rfl
        · intro id _ hne
          rw [if_neg (Ne.symm hne)]
          rfl
      simp only [hcons, ← Multiset.coe_add, Finset.sum_add_distrib, hone, ← ih hrest]
      rfl

theorem absent_restricted {id id' : Uuid} (hne : id' ≠ id) (script : List ScriptStep) :
    id' ∉ retrievals (restricted id script) := by
  intro hmem
  obtain ⟨s, hs, hid⟩ := List.mem_filterMap.mp hmem
  have hkept := (List.mem_filter.mp hs).2
  cases s with
  | event e =>
      have hid : e.retrieval = id' := by simpa using hid
      have hkept : e.retrieval = id := by simpa using hkept
      exact hne (hid.symm.trans hkept)
  | advance seconds => cases hid
  | expire => cases hid

/-- What a fresh correlator tells of each retrieval. -/
theorem creditedTo_fresh {timeout : Number} {capacity : Int} {pool : Pool} {table : LiveTable}
    (hpool : Pool.ofCapacity capacity = .ok pool)
    (htable : LiveTable.ofTimeout timeout pool = .ok table) (resolver : Option Resolver)
    (start : Binary64) (script : List ScriptStep) (id : Uuid) :
    creditedTo id
      (Correlator.credits { table := table, resolver := resolver } (stamped start script))
      = trackTold timeout id start none script := by
  have hsound := LiveTable.sound_of_ofTimeout hpool htable
  have hpositive := LiveTable.toDouble?_ne_of_ofTimeout htable
  obtain rfl := LiveTable.eq_of_ofTimeout htable
  have htimely : LiveTable.Timely start { timeout := timeout, pool := pool } :=
    { positive := hpositive
      made := by simp
      clear := Or.inl (by simp [Deadline.Clear]) }
  exact creditedTo_credits id script (c := { table := _, resolver := resolver }) hsound htimely

end Correlator

/-! ### Two clients -/

/-- A list is merged from two others, each of which keeps its order. -/
inductive Interleaved {α : Type} : List α → List α → List α → Prop
  | nil : Interleaved [] [] []
  | left {a : α} {as bs cs : List α} : Interleaved as bs cs → Interleaved (a :: as) bs (a :: cs)
  | right {b : α} {as bs cs : List α} : Interleaved as bs cs → Interleaved as (b :: bs) (b :: cs)

namespace Interleaved

variable {α : Type} {as bs cs : List α}

theorem mem_iff (h : Interleaved as bs cs) {x : α} : x ∈ cs ↔ x ∈ as ∨ x ∈ bs := by
  induction h with
  | nil => simp
  | left _ ih => simp only [List.mem_cons, ih, or_assoc]
  | right _ ih => simp only [List.mem_cons, ih, or_left_comm]

/-- What passes a test that only the first list can pass is in the order of the first list. -/
theorem filter_left (h : Interleaved as bs cs) {p : α → Bool} (hp : ∀ b ∈ bs, p b = false) :
    cs.filter p = as.filter p := by
  induction h with
  | nil => rfl
  | left _ ih => rw [List.filter_cons, List.filter_cons, ih hp]
  | right _ ih =>
      obtain ⟨hb, hbs⟩ := List.forall_mem_cons.mp hp
      rw [List.filter_cons_of_neg (by simp [hb]), ih hbs]

theorem symm (h : Interleaved as bs cs) : Interleaved bs as cs := by
  induction h with
  | nil => exact nil
  | left _ ih => exact right ih
  | right _ ih => exact left ih

end Interleaved

namespace Correlator

theorem retrievals_batch (before after : List ScriptStep) (batch : List Event) :
    retrievals (before ++ batch.map .event ++ after)
      = retrievals before ++ batch.map Event.retrieval ++ retrievals after := by
  unfold retrievals
  rw [List.filterMap_append, List.filterMap_append, List.filterMap_map]
  exact congrArg (fun l => _ ++ l ++ _) (List.filterMap_eq_map' (f := Event.retrieval) ▸ rfl)

theorem restricted_batch (id : Uuid) (before after : List ScriptStep) (batch : List Event) :
    restricted id (before ++ batch.map .event ++ after)
      = restricted id before ++ (batch.filter fun e => e.retrieval = id).map .event
        ++ restricted id after := by
  unfold restricted
  rw [List.filter_append, List.filter_append, List.filter_map]
  rfl

/-- The updates of a script are those of the scripts with the events of one retrieval each, put
together.  Hence it does not matter how the batches of two clients are merged that report
different retrievals. -/
theorem updates_separate {timeout : Number} {capacity : Int} {pool : Pool} {table : LiveTable}
    (hpool : Pool.ofCapacity capacity = .ok pool)
    (htable : LiveTable.ofTimeout timeout pool = .ok table) (resolver : Option Resolver)
    (start : Binary64) :
    let c : Correlator := { table := table, resolver := resolver }
    let updates : List ScriptStep → Multiset Update := fun script => c.told (stamped start script)
    (∀ script,
      updates script = ∑ id ∈ (retrievals script).toFinset, updates (restricted id script)) ∧
      ∀ (before after : List ScriptStep) (batch batch' merged merged' : List Event),
        (∀ e ∈ batch, ∀ e' ∈ batch', e.retrieval ≠ e'.retrieval) →
        Interleaved batch batch' merged → Interleaved batch batch' merged' →
        updates (before ++ merged.map .event ++ after)
          = updates (before ++ merged'.map .event ++ after) := by
  intro c updates
  have hcredited := creditedTo_fresh hpool htable resolver start
  have hupdates : ∀ script (ids : Finset Uuid), (∀ id ∉ ids, id ∉ retrievals script) →
      updates script = ∑ id ∈ ids, (trackTold timeout id start none script : Multiset Update) := by
    intro script ids habsent
    have hsum := coe_credits (c.credits (stamped start script)) ids fun id hid => by
      rw [hcredited, trackTold_absent timeout id script start (habsent id hid)]
    rw [credits_snd] at hsum
    exact hsum.trans (Finset.sum_congr rfl fun id _ => congrArg _ (hcredited script id))
  have hseparate : ∀ script,
      updates script = ∑ id ∈ (retrievals script).toFinset, updates (restricted id script) := by
    intro script
    rw [hupdates script (retrievals script).toFinset fun id hid => by simpa using hid]
    refine Finset.sum_congr rfl fun id _ => ?_
    have hone := hupdates (restricted id script) {id} fun id' hid' =>
      absent_restricted (by simpa using hid') script
    rw [hone, Finset.sum_singleton, trackTold_restricted]
  refine ⟨hseparate, fun before after batch batch' merged merged' hdisjoint h h' => ?_⟩
  have hids : (retrievals (before ++ merged.map .event ++ after)).toFinset
      = (retrievals (before ++ merged'.map .event ++ after)).toFinset := by
    ext id
    simp only [retrievals_batch, List.mem_toFinset, List.mem_append, List.mem_map, h.mem_iff,
      h'.mem_iff]
  rw [hseparate, hseparate, hids]
  refine Finset.sum_congr rfl fun id _ => ?_
  -- The retrieval belongs to one of the two clients, and that one keeps its order.
  have hsame : (merged.filter fun e => e.retrieval = id)
      = merged'.filter fun e => e.retrieval = id := by
    by_cases hclient : ∃ e ∈ batch, e.retrieval = id
    · obtain ⟨e, he, rfl⟩ := hclient
      have hother : ∀ e' ∈ batch', decide (e'.retrieval = e.retrieval) = false := fun e' he' =>
        decide_eq_false (Ne.symm (hdisjoint e he e' he'))
      rw [h.filter_left hother, h'.filter_left hother]
    · have hother : ∀ e ∈ batch, decide (e.retrieval = id) = false := fun e he =>
        decide_eq_false fun hid => hclient ⟨e, he, hid⟩
      rw [h.symm.filter_left hother, h'.symm.filter_left hother]
  rw [restricted_batch, restricted_batch, hsame]

/-- Two retrievals that start in one batch: the updates come from both, and it does not matter
which one started first. -/
theorem updates_separate_two :
    let table : LiveTable := { timeout := .int 60, pool := { capacity := 1 } }
    let c : Correlator := { table := table }
    let started : Uuid → Event := fun id => .bare id .indexer .started
    let script : List Event → List ScriptStep := fun batch =>
      [] ++ batch.map .event ++
        [.event (.bare ⟨1⟩ .retrieval .success), .advance (.finite false 100 0), .expire]
    let updates : List ScriptStep → Multiset Update := fun script =>
      c.told (stamped (.zero false) script)
    updates (script [started ⟨1⟩, started ⟨2⟩])
        = ∑ id ∈ (retrievals (script [started ⟨1⟩, started ⟨2⟩])).toFinset,
            updates (restricted id (script [started ⟨1⟩, started ⟨2⟩])) ∧
      updates (script [started ⟨1⟩, started ⟨2⟩])
        = updates (script [started ⟨2⟩, started ⟨1⟩]) := by
  intro table c started script updates
  have hpool : Pool.ofCapacity 1 = .ok { capacity := 1 } := rfl
  have htable : LiveTable.ofTimeout (.int 60) { capacity := 1 } = .ok table := rfl
  obtain ⟨hseparate, hmerged⟩ := updates_separate hpool htable none (.zero false)
  refine ⟨hseparate _, hmerged [] _ [started ⟨1⟩] [started ⟨2⟩] _ _ (by decide) ?_ ?_⟩
  · exact .left (.right .nil)
  · exact .right (.left .nil)

end Correlator

end RetrievalTelemetry
