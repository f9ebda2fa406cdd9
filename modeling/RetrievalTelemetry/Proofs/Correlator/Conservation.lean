/-
No retrieval is lost, and none is counted twice.

Starting with an empty table, every retrieval that was ever made live either is live still or had
its end reported, once.  That is the balance of a run read from its beginning.

The balance speaks of incarnations.  A retrieval that is over is forgotten, and if another event
of it comes late and makes it live again, it is a new incarnation with an end of its own.  So a
retrieval can have more than one end, and `ended_count` says exactly when it has.
-/
import RetrievalTelemetry.Proofs.Correlator.Run

namespace RetrievalTelemetry

namespace Correlator

open Update (adds increments samples)

/-- The balance of a run that begins with an empty table. -/
theorem balanced_of_ofTimeout {timeout : Number} {capacity : Int} {pool : Pool} {table : LiveTable}
    (hpool : Pool.ofCapacity capacity = .ok pool)
    (htable : LiveTable.ofTimeout timeout pool = .ok table) (resolver : Option Resolver)
    (steps : List Step) :
    let c : Correlator := { table := table, resolver := resolver }
    table.sequence = 0 ∧ table.expiredTotal = 0 ∧ table.ids = [] ∧
      LiveTable.Balanced table (c.after steps).table (c.openings steps) (ended (c.credits steps))
        (c.told steps) (c.Completes steps) := by
  intro c
  have hsound : LiveTable.Sound c.table := LiveTable.sound_of_ofTimeout hpool htable
  have hbalanced := balanced_run steps hsound
  obtain rfl := LiveTable.eq_of_ofTimeout htable
  exact ⟨rfl, rfl, rfl, hbalanced⟩

/-- After every run, and so after every step of it: the entries ever made are those whose end was
reported and those that are live, the expiries told are those the table counted, and every success
was counted for one transport.  Every counter was added to one at a time.  In a run without faults each success gave one sample of every
histogram per request, at the step that told it, and no other end gave any. -/
theorem retrievals_conserved {timeout : Number} {capacity : Int} {pool : Pool} {table : LiveTable}
    (hpool : Pool.ofCapacity capacity = .ok pool)
    (htable : LiveTable.ofTimeout timeout pool = .ok table) (resolver : Option Resolver)
    (steps : List Step) :
    let c : Correlator := { table := table, resolver := resolver }
    let told := c.told steps
    let final := c.after steps
    final.table.sequence
        = adds .success told + adds .indexerFailures told + adds .expired told + final.table.size ∧
      adds .expired told = final.table.expiredTotal ∧
      adds .success told = adds .bitswapSuccess told + adds .graphsyncSuccess told ∧
      (∀ counter, increments counter told = List.replicate (adds counter told) 1) ∧
      (c.Completes steps → ∀ h ∈ Histogram.perSuccess, samples h told = adds .success told) ∧
      ∀ s, (final.step s).fault = none → ∀ h ∈ Histogram.perSuccess,
        samples h (final.step s).updates = adds .success (final.step s).updates := by
  intro c told final
  obtain ⟨hsequence, hexpired, hids, hbalanced⟩ :=
    balanced_of_ofTimeout hpool htable resolver steps
  refine ⟨?_, ?_, hbalanced.fair.split, (allSuit_told c steps).increments_eq,
    hbalanced.fair.samples, fun s => (balanced_step hbalanced.sound s).fair.samples⟩
  · have hlength := hbalanced.ids.length_eq
    have houtcomes := hbalanced.fair.outcomes
    rw [hids, List.nil_append, List.length_append, LiveTable.length_ids] at hlength
    rw [hbalanced.sequence, hsequence, Nat.zero_add, ← hlength, ← houtcomes, Update.outcomes_eq]
  · rw [hbalanced.expiredTotal, hexpired, Nat.zero_add]

/-- A retrieval that starts, fails once and succeeds is counted and sampled once. -/
theorem retrievals_conserved_success :
    let table : LiveTable := { timeout := .int 60, pool := { capacity := 4 } }
    let c : Correlator := { table := table }
    let steps : List Step :=
      [.event (.zero false) (.bare ⟨1⟩ .indexer .started),
       .event (.zero false) (.bare ⟨1⟩ .retrieval .failure),
       .event (.zero false) (.bare ⟨1⟩ .retrieval .success)]
    c.Completes steps ∧ increments .success (c.told steps) = [1] ∧
      (c.after steps).table.sequence
        = adds .success (c.told steps) + adds .indexerFailures (c.told steps)
          + adds .expired (c.told steps) + (c.after steps).table.size ∧
      ∀ h ∈ Histogram.perSuccess, samples h (c.told steps) = adds .success (c.told steps) := by
  intro table c steps
  have hpool : Pool.ofCapacity 4 = .ok { capacity := 4 } := rfl
  have htable : LiveTable.ofTimeout (.int 60) { capacity := 4 } = .ok table := rfl
  obtain ⟨hsequence, -, -, hones, hsamples, -⟩ := retrievals_conserved hpool htable none steps
  have hcompletes : c.Completes steps := ⟨rfl, rfl, rfl, trivial⟩
  have hsuccess : adds .success (c.told steps) = 1 := by decide
  have hadded : increments .success (c.told steps) = [1] := by
    rw [hones, hsuccess]
    rfl
  exact ⟨hcompletes, hadded, hsequence, hsamples hcompletes⟩

/-! ### The ends of one retrieval -/

/-- A success adds one to its counter if it finds its retrieval live. -/
theorem increments_success_event {c : Correlator} (now : Binary64) {e : Event}
    (hphase : e.phase = .retrieval) (hcode : e.code = .success) :
    increments .success (c.event now e).updates
      = List.replicate (c.table.contains e.retrieval).toNat 1 := by
  have hrule : Metering.rule e = .close (Metering.successUpdates e) := by
    unfold Metering.rule
    rw [hphase, hcode]
    rfl
  have hupdates : (c.event now e).updates
      = (Action.apply now c.table e.retrieval (.close (Metering.successUpdates e))).updates := by
    rw [← hrule]
    exact adopt_updates c _
  have hcontains : c.table.contains e.retrieval = (c.table.live? e.retrieval).isSome := rfl
  refine ((allSuit_step c (.event now e)).increments_eq .success).trans
    (congrArg (List.replicate · 1) ?_)
  show adds .success (c.event now e).updates = _
  rw [hupdates, hcontains, Action.apply]
  cases h : c.table.live? e.retrieval with
  | none => rw [LiveTable.finish_none h]; rfl
  | some entry =>
      rw [LiveTable.finish_some h]
      exact Metering.adds_success_successUpdates e _

/-- How often the end of a retrieval is reported: as often as it was made live, less one if it is
live at the end.  So it is reported at most once exactly if the retrieval was never made live
again after its end, except that it may be live again and not over yet.  A success adds one to its
counter exactly if it finds the retrieval live, and nothing otherwise. -/
theorem ended_count {timeout : Number} {capacity : Int} {pool : Pool} {table : LiveTable}
    (hpool : Pool.ofCapacity capacity = .ok pool)
    (htable : LiveTable.ofTimeout timeout pool = .ok table) (resolver : Option Resolver)
    (steps : List Step) (id : Uuid) :
    let c : Correlator := { table := table, resolver := resolver }
    let ends := (ended (c.credits steps)).count id
    let openings := (c.openings steps).count id
    let isLive := (c.after steps).table.contains id
    ends + isLive.toNat = openings ∧
      (ends ≤ 1 ↔ openings ≤ 1 ∨ openings = 2 ∧ isLive = true) ∧
      ∀ now e, e.phase = .retrieval → e.code = .success → e.retrieval = id →
        increments .success ((c.after steps).event now e).updates
          = List.replicate isLive.toNat 1 := by
  intro c ends openings isLive
  obtain ⟨-, -, hids, hbalanced⟩ := balanced_of_ofTimeout hpool htable resolver steps
  have hsum : ends + isLive.toNat = openings := by
    have hcount := hbalanced.ids.count_eq id
    rw [hids, List.nil_append, List.count_append, hbalanced.sound.count_ids] at hcount
    exact hcount
  refine ⟨hsum, ?_, fun now e hphase hcode hid => ?_⟩
  · cases h : isLive with
    | false =>
        rw [h] at hsum
        simp only [Bool.toNat_false] at hsum
        simp only [Bool.false_eq_true, and_false, or_false]
        omega
    | true =>
        rw [h] at hsum
        simp only [Bool.toNat_true] at hsum
        simp only [and_true]
        omega
  · rw [increments_success_event now hphase hcode, hid]

/-- Between the two deliveries of a success comes a failed attempt that is late.  It makes the
retrieval live again, and the second delivery ends it again. -/
theorem ended_twice_after_late_failure :
    let table : LiveTable := { timeout := .int 60, pool := { capacity := 1024 } }
    let c : Correlator := { table := table }
    let steps : List Step :=
      [.event (.zero false) (.bare ⟨1⟩ .indexer .started),
       .event (.zero false) (.bare ⟨1⟩ .retrieval .success),
       .event (.zero false) (.bare ⟨1⟩ .retrieval .failure),
       .event (.zero false) (.bare ⟨1⟩ .retrieval .success)]
    (ended (c.credits steps)).count ⟨1⟩ = 2 ∧ increments .success (c.told steps) = [1, 1] :=
  ⟨rfl, rfl⟩

/-- The run with the late failure makes its retrieval live twice. -/
theorem ended_count_late_failure :
    let table : LiveTable := { timeout := .int 60, pool := { capacity := 1024 } }
    let c : Correlator := { table := table }
    let steps : List Step :=
      [.event (.zero false) (.bare ⟨1⟩ .indexer .started),
       .event (.zero false) (.bare ⟨1⟩ .retrieval .success),
       .event (.zero false) (.bare ⟨1⟩ .retrieval .failure),
       .event (.zero false) (.bare ⟨1⟩ .retrieval .success)]
    (c.openings steps).count ⟨1⟩ = 2 ∧
      (ended (c.credits steps)).count ⟨1⟩ + ((c.after steps).table.contains ⟨1⟩).toNat = 2 := by
  intro table c steps
  have hpool : Pool.ofCapacity 1024 = .ok { capacity := 1024 } := rfl
  have htable : LiveTable.ofTimeout (.int 60) { capacity := 1024 } = .ok table := rfl
  obtain ⟨hsum, -, -⟩ := ended_count hpool htable none steps ⟨1⟩
  have hopenings : (c.openings steps).count ⟨1⟩ = 2 := rfl
  exact ⟨hopenings, hsum.trans hopenings⟩

end Correlator

end RetrievalTelemetry
