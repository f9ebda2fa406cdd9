/-
Runs of the correlator, with every update credited to a retrieval.

A run is a list of steps, each an event or an expiry with the reading of the clock at that moment;
the readings need not be in any order.  An update does not say which retrieval it is about, but
the step knows: an event is about its own retrieval, and an expiry tells one update for each
retrieval that it removes.  `credits` keeps the two together.

What the live table and the updates owe each other is said of one step first.  A step ends some
retrievals and makes some live, and both are lists of retrievals that can be counted: the ended and
the live ones after the step are the live ones before it and the ones that became live.  A run adds
this up.
-/
import RetrievalTelemetry.Correlator
import RetrievalTelemetry.Proofs.Metering.Action
import RetrievalTelemetry.Proofs.Metering.Kinds

namespace RetrievalTelemetry

/-- An event over bitswap that gives no details. -/
def Event.bare (id : Uuid) (phase : Phase) (code : EventCode) : Event where
  retrieval := id
  instanceId := ""
  cid := ""
  provider := Transport.bitswapProvider
  phase := phase
  phaseStart := ⟨0, 0⟩
  code := code
  time := ⟨0, 0⟩
  raw := .null

namespace Correlator

open Update (outcomes)

/-- A step of a run. -/
inductive Step where
  | event (now : Binary64) (e : Event)
  | expire (now : Binary64)

def step (c : Correlator) : Step → Correlated
  | .event now e => c.event now e
  | .expire now => c.expire now

/-- The correlator after a run; what stops a step does not stop the run. -/
def after (c : Correlator) : List Step → Correlator
  | [] => c
  | s :: rest => (c.step s).correlator.after rest

/-- The updates of a run. -/
def told (c : Correlator) : List Step → List Update
  | [] => []
  | s :: rest => (c.step s).updates ++ (c.step s).correlator.told rest

/-- No step of the run is stopped. -/
def Completes (c : Correlator) : List Step → Prop
  | [] => True
  | s :: rest => (c.step s).fault = none ∧ (c.step s).correlator.Completes rest

/-- The updates of a step, each with the retrieval that it is about. -/
def stepCredits (c : Correlator) : Step → List (Uuid × Update)
  | .event now e => (c.event now e).updates.map fun u => (e.retrieval, u)
  | .expire now => (c.table.expire now).1.map fun expired => (expired.1, .count .expired)

/-- The updates of a run, each with the retrieval that it is about. -/
def credits (c : Correlator) : List Step → List (Uuid × Update)
  | [] => []
  | s :: rest => c.stepCredits s ++ (c.step s).correlator.credits rest

/-- The retrieval that a step makes live, if it does. -/
def stepOpenings (c : Correlator) : Step → List Uuid
  | .event _ e => (Metering.rule e).entering c.table e.retrieval
  | .expire _ => []

/-- The retrievals that a run makes live, each as often as it does. -/
def openings (c : Correlator) : List Step → List Uuid
  | [] => []
  | s :: rest => c.stepOpenings s ++ (c.step s).correlator.openings rest

/-- The retrievals whose end is reported, each as often as it is. -/
def ended (credits : List (Uuid × Update)) : List Uuid :=
  (credits.filter fun credit => credit.2.isOutcome).map fun credit => credit.1

theorem ended_append (a b : List (Uuid × Update)) : ended (a ++ b) = ended a ++ ended b := by
  simp [ended]

/-- The ends that are credited are those that are reported. -/
theorem length_ended (credits : List (Uuid × Update)) :
    (ended credits).length = outcomes (credits.map fun credit => credit.2) := by
  rw [outcomes, List.countP_map, List.countP_eq_length_filter, ended, List.length_map]
  rfl

/-- Updates that are all about one retrieval end it as often as they report an end. -/
theorem ended_map (id : Uuid) (updates : List Update) :
    ended (updates.map fun u => (id, u)) = List.replicate (outcomes updates) id := by
  refine List.eq_replicate_iff.mpr ⟨?_, ?_⟩
  · rw [length_ended, List.map_map]
    exact congrArg outcomes (List.map_id _)
  · intro id' h
    obtain ⟨credit, hcredit, rfl⟩ := List.mem_map.mp h
    obtain ⟨u, -, rfl⟩ := List.mem_map.mp (List.mem_of_mem_filter hcredit)
    rfl

/-! ### One step -/

theorem adopt_table (c : Correlator) (m : Metered) : (c.adopt m).correlator.table = m.table := by
  unfold adopt tell
  cases c.meter <;> rfl

theorem adopt_updates (c : Correlator) (m : Metered) : (c.adopt m).updates = m.updates := by
  unfold adopt tell
  cases c.meter <;> rfl

theorem fault_of_adopt {c : Correlator} {m : Metered} (h : (c.adopt m).fault = none) :
    m.fault = none := by
  have hboth := Option.or_eq_none_iff.mp h
  simpa using hboth.2

/-- The updates of a step are those that it credits. -/
theorem stepCredits_snd (c : Correlator) (s : Step) :
    (c.stepCredits s).map (fun credit => credit.2) = (c.step s).updates := by
  cases s with
  | event now e => simp [stepCredits, step, Function.comp_def]
  | expire now =>
      have hexpire : (c.expire now).updates
          = (c.table.expire now).1.map fun _ => .count .expired := adopt_updates _ _
      simp [stepCredits, step, hexpire, Function.comp_def]

theorem balanced_step {c : Correlator} (h : LiveTable.Sound c.table) (s : Step) :
    LiveTable.Balanced c.table (c.step s).correlator.table (c.stepOpenings s)
      (ended (c.stepCredits s)) (c.step s).updates ((c.step s).fault = none) := by
  cases s with
  | event now e =>
      have hbalanced := Action.balanced h (Metering.fair_rule e) now e.retrieval
      have htable : (c.event now e).correlator.table = _ := adopt_table c _
      have hupdates : (c.event now e).updates = _ := adopt_updates c _
      show LiveTable.Balanced c.table (c.event now e).correlator.table _
        (ended ((c.event now e).updates.map fun u => (e.retrieval, u))) (c.event now e).updates _
      rw [ended_map, htable, hupdates]
      exact { hbalanced with
        fair := { hbalanced.fair with
          samples := fun hfault => hbalanced.fair.samples (fault_of_adopt hfault) } }
  | expire now =>
      obtain ⟨hids, hsequence, hexpired⟩ := h.expire_census now
      have htable : (c.expire now).correlator.table = (c.table.expire now).2 := adopt_table c _
      have hupdates : (c.expire now).updates
          = (c.table.expire now).1.map fun _ => .count .expired := adopt_updates c _
      have hended : ended (c.stepCredits (.expire now))
          = (c.table.expire now).1.map fun e => e.1 := by
        unfold ended stepCredits
        rw [List.filter_eq_self.mpr, List.map_map]
        · rfl
        · intro credit hcredit
          obtain ⟨expired, -, rfl⟩ := List.mem_map.mp hcredit
          rfl
      have hconst : ∀ (p : Update → Bool) (l : List (Uuid × Progress)),
          (l.map fun _ => Update.count .expired).countP p
            = if p (.count .expired) then l.length else 0 := by
        intro p l
        rw [List.map_const', List.countP_replicate]
      rw [hended]
      show LiveTable.Balanced c.table (c.expire now).correlator.table _ _ (c.expire now).updates _
      rw [htable, hupdates]
      refine ⟨h.expire now, ?_, hsequence, ?_, ?_, ?_, fun _ h hh => ?_⟩
      · exact hids.trans (List.Perm.of_eq (List.append_nil _).symm)
      · rw [Update.adds_eq_countP, hconst]
        exact hexpired
      · rw [outcomes, hconst, List.length_map]
        rfl
      · simp only [Update.adds_eq_countP, hconst]
        rfl
      · simp only [Update.adds_eq_countP, Update.samples, hconst]
        rfl

/-- A step tells every histogram numbers of its kind and adds to a counter one at a time. -/
theorem allSuit_step (c : Correlator) (s : Step) : Update.AllSuit (c.step s).updates := by
  cases s with
  | event now e =>
      have hupdates : (c.step (.event now e)).updates = _ := adopt_updates c _
      rw [hupdates]
      exact Action.allSuit_apply (Metering.suits_rule e) now c.table e.retrieval
  | expire now =>
      have hupdates : (c.step (.expire now)).updates = _ := adopt_updates c _
      rw [hupdates]
      exact Metering.allSuit_expire now c.table

/-! ### A whole run -/

theorem credits_snd (c : Correlator) (steps : List Step) :
    (c.credits steps).map (fun credit => credit.2) = c.told steps := by
  induction steps generalizing c with
  | nil => rfl
  | cons s rest ih => rw [credits, List.map_append, stepCredits_snd, ih, told]

theorem allSuit_told (c : Correlator) (steps : List Step) : Update.AllSuit (c.told steps) := by
  induction steps generalizing c with
  | nil => exact Update.allSuit_nil
  | cons s rest ih => exact Update.allSuit_append.mpr ⟨allSuit_step c s, ih _⟩

/-- Every run keeps the balance. -/
theorem balanced_run (steps : List Step) {c : Correlator} (h : LiveTable.Sound c.table) :
    LiveTable.Balanced c.table (c.after steps).table (c.openings steps)
      (ended (c.credits steps)) (c.told steps) (c.Completes steps) := by
  induction steps generalizing c with
  | nil => exact LiveTable.Balanced.refl h
  | cons s rest ih =>
      have hstep := balanced_step h s
      rw [credits, ended_append]
      exact hstep.trans (ih hstep.sound)

end Correlator

end RetrievalTelemetry
