/-
What stops an event, whatever was handled before.

Three things can: there is no deadline for the entry that it makes, because the lifetime is too large
for a double; it is a success whose transfer has no rate; or the meter cannot take one of its numbers.
Nothing else can, in no state that calls lead to.  The meter is no source of surprises because all
calls leave it in a state in which only the number itself decides.

A number can only be too large if somebody reports one that is.  So without a meter a batch is
handled to its last event if all of its sizes are below `2 ^ 1002`.
-/
import RetrievalTelemetry.Intake.EventBatch
import RetrievalTelemetry.Proofs.Correlator.Calls
import RetrievalTelemetry.Proofs.Metering.Faults
import RetrievalTelemetry.Proofs.Metering.Kinds

namespace RetrievalTelemetry

namespace Correlator

/-! ### Telling the meter -/

/-- The meter of a correlator, if it has one: its name, and that it was told only what suits its
histograms. -/
structure Measures (c : Correlator) (name? : Option String) : Prop where
  suits : ∀ meter, c.meter = some meter → meter.Suits
  name : c.meter.map Meter.name = name?

variable {c : Correlator} {name? : Option String}

theorem measures_tell (h : c.Measures name?) {updates : List Update} (hsuit : Update.AllSuit updates) :
    (c.tell updates).correlator.Measures name? ∧
      ((c.tell updates).fault ≠ none ↔
        ∃ name, name? = some name ∧ name ≠ "" ∧ ∃ u ∈ updates, u.value.isTooLarge = true) := by
  have hname := h.name
  unfold tell
  cases hmeter : c.meter with
  | none =>
      rw [hmeter] at hname
      refine ⟨⟨by simp [hmeter], by rw [hmeter]; exact hname⟩, ?_⟩
      simp [← hname]
  | some meter =>
      rw [hmeter] at hname
      obtain ⟨⟨hkept, hsame⟩, hfault⟩ := Meter.applyAll_fault (h.suits meter hmeter) hsuit
      refine ⟨⟨?_, ?_⟩, ?_⟩
      · intro m hm
        cases hm
        exact hkept
      · rw [← hname]
        exact congrArg some hsame
      · have hsilent : meter.isSilent = false ↔ meter.name ≠ "" := by simp [Meter.isSilent]
        rw [hsilent] at hfault
        simp only [← hname, Option.map_some, Option.some.injEq, exists_eq_left', ← hfault, ne_eq,
          Option.map_eq_none_iff]

theorem measures_adopt (h : c.Measures name?) {m : Metered}
    (hsuit : Update.AllSuit m.updates) : (c.adopt m).correlator.Measures name? :=
  (measures_tell (c := { c with table := m.table }) ⟨h.suits, h.name⟩ hsuit).1

/-- What stops a step stops the table or the meter. -/
theorem adopt_fault (h : c.Measures name?) {m : Metered}
    (hsuit : Update.AllSuit m.updates) :
    (c.adopt m).fault ≠ none ↔
      m.fault ≠ none ∨
        ∃ name, name? = some name ∧ name ≠ "" ∧ ∃ u ∈ m.updates, u.value.isTooLarge = true := by
  have htold := (measures_tell (c := { c with table := m.table }) ⟨h.suits, h.name⟩ hsuit).2
  rw [← htold]
  unfold adopt
  simp only [ne_eq, Option.or_eq_none_iff, Option.map_eq_none_iff]
  exact ⟨fun hno => by by_cases hm : m.fault = none <;> simp_all, fun hor hno => by simp_all⟩

/-! ### All calls -/

theorem measures_call (h : c.Measures name?) (a : Call) : (c.call a).correlator.Measures name? := by
  cases a with
  | step s =>
      cases s with
      | event now e =>
          exact measures_adopt h (Action.allSuit_apply (Metering.suits_rule e) now c.table e.retrieval)
      | expire now => exact measures_adopt h (Metering.allSuit_expire now c.table)
  | record r =>
      have hnames : (c.names r).2.Measures name? := by
        unfold names
        cases c.resolver with
        | none => exact h
        | some resolver => exact ⟨h.suits, h.name⟩
      show (c.record r).correlator.Measures name?
      unfold record
      rcases hfound : c.names r with ⟨found, c'⟩
      rw [hfound] at hnames
      cases found with
      | error error => exact hnames
      | ok names => exact (measures_tell hnames (Metering.allSuit_record names r)).1
  | recordWith names r => exact (measures_tell h (Metering.allSuit_record names r)).1
  | stop => exact ⟨h.suits, h.name⟩

theorem measures_afterCalls (calls : List Call) (h : c.Measures name?) :
    (c.afterCalls calls).Measures name? := by
  induction calls generalizing c with
  | nil => exact h
  | cons a rest ih => exact ih (measures_call h a)

/-- What stops an event in a state that calls lead to. -/
theorem event_fault (h : c.Measures name?) (now : Binary64) (e : Event) :
    (c.event now e).fault ≠ none ↔
      c.table.NoDeadline e ∨
      (e.phase = .retrieval ∧ e.code = .success ∧
        ∃ entry, c.table.live? e.retrieval = some entry ∧
          Metering.NoRate e (c.table.progress entry.handle)) ∨
      ∃ name, name? = some name ∧ name ≠ "" ∧
        ∃ u ∈ (c.event now e).updates, u.value.isTooLarge = true := by
  have hupdates : (c.event now e).updates = (Metering.event now c.table e).updates :=
    adopt_updates c _
  have hsuit := Action.allSuit_apply (Metering.suits_rule e) now c.table e.retrieval
  rw [hupdates, ← or_assoc, ← Metering.event_fault now]
  exact adopt_fault h hsuit

/-! ### Batches -/

/-- An event of an ordinary size is not stopped, if its lifetime is a double and nobody measures. -/
theorem event_completes (h : c.Measures none) (htimeout : c.table.timeout.toDouble? ≠ none)
    (now : Binary64) {e : Event}
    (hsize : ∀ bytes, e.received? = some bytes → bytes.natAbs < 2 ^ 1002) :
    (c.event now e).fault = none := by
  by_contra hstopped
  rcases (event_fault h now e).mp hstopped with ⟨-, -, hlarge⟩ | ⟨-, -, entry, -, hrate⟩ | hmeter
  · exact htimeout hlarge
  · obtain ⟨bytes, first, hbytes, -, hbefore, error, herror⟩ := hrate
    have hspan : 0 < (e.time.since first).micros := by
      have hlater : first.micros < e.time.micros := by
        simpa [Timestamp.isBefore] using hbefore
      show 0 < e.time.micros - first.micros
      omega
    obtain ⟨rate, hok⟩ := Metering.transferRate_ok (hsize bytes hbytes) hspan
    rw [hok] at herror
    cases herror
  · obtain ⟨name, hname, -⟩ := hmeter
    cases hname

theorem events_complete (now : Binary64) {batch : List Event}
    (hsizes : ∀ e ∈ batch, ∀ bytes, e.received? = some bytes → bytes.natAbs < 2 ^ 1002)
    (h : c.Measures none) (hsound : LiveTable.Sound c.table)
    (htimeout : c.table.timeout.toDouble? ≠ none) : (c.events now batch).fault = none := by
  induction batch generalizing c with
  | nil => rfl
  | cons e rest ih =>
      obtain ⟨hsize, hrest⟩ := List.forall_mem_cons.mp hsizes
      have hfirst := event_completes h htimeout now hsize
      obtain ⟨hsound', hsame⟩ := sound_step hsound (.event now e)
      unfold events
      dsimp only
      rw [hfirst]
      exact ih hrest (measures_call h (.step (.event now e))) hsound' (hsame ▸ htimeout)

/-- Exactly three things stop an event, in every state that calls lead to: an entry gets no
deadline, or a transfer has no rate, or the meter, which has a name, is told a number that is too
large.  So without a meter, and with a lifetime that is a double, a batch whose sizes are all
below `2 ^ 1002` is handled to its end. -/
theorem event_stopped_iff {timeout : Number} {capacity : Int} {pool : Pool} {table : LiveTable}
    (hpool : Pool.ofCapacity capacity = .ok pool)
    (htable : LiveTable.ofTimeout timeout pool = .ok table) (resolver : Option Resolver)
    (name? : Option String) (calls : List Call) (now : Binary64) :
    let c : Correlator :=
      { table := table, resolver := resolver, meter := name?.map fun name => { name := name } }
    let c := c.afterCalls calls
    (∀ e, (c.event now e).fault ≠ none ↔
      c.table.NoDeadline e ∨
      (e.phase = .retrieval ∧ e.code = .success ∧
        ∃ entry, c.table.live? e.retrieval = some entry ∧
          Metering.NoRate e (c.table.progress entry.handle)) ∨
      ∃ name, name? = some name ∧ name ≠ "" ∧
        ∃ u ∈ (c.event now e).updates, u.value.isTooLarge = true) ∧
    (name? = none → timeout.toDouble? ≠ none → ∀ batch : List Event,
      (∀ e ∈ batch, ∀ bytes, e.received? = some bytes → bytes.natAbs < 2 ^ 1002) →
      (c.events now batch).fault = none) := by
  intro c₀ c
  have hsound₀ : LiveTable.Sound c₀.table := LiveTable.sound_of_ofTimeout hpool htable
  obtain ⟨hsound, hlifetime⟩ := sound_afterCalls calls hsound₀
  have hmeasures₀ : c₀.Measures name? := by
    refine ⟨fun meter hmeter => ?_, ?_⟩
    · obtain ⟨name, -, rfl⟩ := Option.map_eq_some_iff.mp hmeter
      exact Meter.suits_new name
    · show (name?.map _).map Meter.name = name?
      rw [Option.map_map]
      exact Option.map_id'
  have hmeasures : c.Measures name? := measures_afterCalls calls hmeasures₀
  refine ⟨fun e => event_fault hmeasures now e, ?_⟩
  rintro rfl htimeout batch hsizes
  refine events_complete now hsizes hmeasures hsound ?_
  rw [hlifetime]
  obtain rfl := LiveTable.eq_of_ofTimeout htable
  exact htimeout

/-- A thousand bytes stop nothing: after its start, the first byte and the success of a retrieval are
handled to the end. -/
theorem event_stopped_iff_ordinary :
    let table : LiveTable := { timeout := .int 60, pool := { capacity := 4 } }
    let c : Correlator := { table := table }
    let now : Binary64 := .zero false
    let calls : List Call := [.step (.event now (.bare ⟨1⟩ .indexer .started))]
    let success : Event :=
      { Event.bare ⟨1⟩ .retrieval .success with
        time := ⟨2000000, 0⟩
        raw := .object [("receivedSize", .number (.int 1000))] }
    let batch : List Event := [.bare ⟨1⟩ .retrieval .firstByte, success]
    success.received? = some 1000 ∧ ((c.afterCalls calls).events now batch).fault = none := by
  intro table c now calls success batch
  have hpool : Pool.ofCapacity 4 = .ok { capacity := 4 } := rfl
  have htable : LiveTable.ofTimeout (.int 60) { capacity := 4 } = .ok table := rfl
  have hsize : success.received? = some 1000 := by decide
  have hnone : (Event.bare ⟨1⟩ .retrieval .firstByte).received? = none := by decide
  have htimeout : (Number.int 60).toDouble? ≠ none := by decide +kernel
  obtain ⟨-, hcomplete⟩ := event_stopped_iff hpool htable none none calls now
  refine ⟨hsize, hcomplete rfl htimeout batch ?_⟩
  intro e he bytes hbytes
  simp only [batch, List.mem_cons, List.not_mem_nil, or_false] at he
  rcases he with rfl | rfl
  · rw [hnone] at hbytes
    cases hbytes
  · rw [hsize] at hbytes
    cases hbytes
    have hten : 1000 < 2 ^ 10 := by decide
    have hmore : ∀ k, 10 ≤ k → 1000 < 2 ^ k := fun k hk =>
      hten.trans_le (Nat.pow_le_pow_right Nat.two_pos hk)
    exact hmore 1002 (by decide)

/-- A valid batch that is not handled to its end.  The size of its success is too large for a
double, so there is no rate; the retrieval is over by then, and its samples per request are lost. -/
theorem stopped_by_enormous_size :
    let table : LiveTable := { timeout := .int 60, pool := { capacity := 4 } }
    let c : Correlator := { table := table }
    let item : String → String → String → Json → Json := fun phase code time details =>
      .object [
        ("retrievalId", .string "00000000-0000-4000-8000-000000000001"),
        ("instanceId", .string "i"), ("cid", .string "c"), ("storageProviderId", .string ""),
        ("phase", .string phase), ("phaseStartTime", .string "2023-05-01T12:00:00Z"),
        ("eventName", .string code), ("eventTime", .string time), ("eventDetails", details)]
    let body : Json := .object [("events", .array [
      item "indexer" "started" "2023-05-01T12:00:00Z" .null,
      item "retrieval" "first-byte-received" "2023-05-01T12:00:01Z" .null,
      item "retrieval" "success" "2023-05-01T12:00:02Z"
        (.object [("receivedSize", .number (.int (10 ^ 400)))])])]
    ∃ batch, Intake.batch Intake.event (some body) = .ok batch ∧
      let handled := c.events (.zero false) batch
      handled.fault = some (.arithmetic .tooLarge) ∧ handled.correlator.table.size = 0 ∧
        Update.sampled .failuresPerRequest handled.updates = [] := by
  intro table c item body
  have hread : (match Intake.batch Intake.event (some body) with
      | .error _ => false
      | .ok batch =>
        let handled := c.events (.zero false) batch
        handled.fault = some (.arithmetic .tooLarge) && handled.correlator.table.size = 0 &&
          Update.sampled .failuresPerRequest handled.updates = []) = true := by
    decide +kernel
  cases hbatch : Intake.batch Intake.event (some body) with
  | error problems =>
      rw [hbatch] at hread
      cases hread
  | ok batch =>
      rw [hbatch] at hread
      simpa [and_assoc] using hread

end Correlator

end RetrievalTelemetry
