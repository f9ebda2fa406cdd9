/-
What a success reports is what was delivered since its retrieval was made live.

A retrieval can be made live several times, in slots that served others before, between events of
any other retrievals.  `Begun` picks out the call that made the entry that is live now.
The invariant of a run is that what the entry knows is the summary of the events of its retrieval
that were handled since that call, that one included.  A success reads the entry once and
removes it, so its samples are those of the summary.
-/
import RetrievalTelemetry.Proofs.Correlator.Calls
import RetrievalTelemetry.Proofs.Metering.Lineage
import RetrievalTelemetry.Proofs.Metering.Success

namespace RetrievalTelemetry

namespace Correlator

open Progress (Summary)

/-- The events of a retrieval among calls. -/
def eventsOf (id : Uuid) (calls : List Call) : List Event :=
  calls.filterMap fun
    | .step (.event _ e) => if e.retrieval = id then some e else none
    | _ => none

theorem eventsOf_append (id : Uuid) (as bs : List Call) :
    eventsOf id (as ++ bs) = eventsOf id as ++ eventsOf id bs :=
  List.filterMap_append

/-- The entry of a retrieval was made by the call `first` and was there ever since. -/
structure Begun (c : Correlator) (id : Uuid) (entry : LiveEntry) (before : List Call) (first : Call)
    (since : List Call) : Prop where
  absent : (c.afterCalls before).table.live? id = none
  event : ∃ now e, first = .step (.event now e) ∧ e.retrieval = id
  stays : ∀ mid, mid <+: since →
    (c.afterCalls (before ++ first :: mid)).table.live? id = some entry

/-- The events of a retrieval that are written to an entry made by `first`.  If its lifetime is too
large for a double, the event that makes it is stopped before it is written. -/
def delivered (timeout : Number) (id : Uuid) (first : Call) (since : List Call) : List Event :=
  if timeout.toDouble? = none then eventsOf id since else eventsOf id (first :: since)

theorem delivered_concat (timeout : Number) (id : Uuid) (first : Call) (since : List Call)
    (a : Call) :
    delivered timeout id first (since ++ [a]) = delivered timeout id first since ++ eventsOf id [a] := by
  unfold delivered
  split
  · exact eventsOf_append id since [a]
  · exact eventsOf_append id (first :: since) [a]

/-! ### One call -/

variable {c : Correlator} {id : Uuid} {entry : LiveEntry}

/-- Where an entry that is live after a call comes from, and what it knows. -/
inductive Explained (c : Correlator) (a : Call) (id : Uuid) (entry : LiveEntry) : Prop where
  /-- It was there before, and the call wrote to it if it is an event of its retrieval. -/
  | kept (hold : c.table.live? id = some entry)
      (hknows : ∀ W, Summary W (c.table.progress entry.handle) →
        Summary (W ++ eventsOf id [a]) ((c.call a).correlator.table.progress entry.handle))
  /-- The call made it. -/
  | made (hnew : c.table.live? id = none) (now : Binary64) (e : Event)
      (hevent : a = .step (.event now e)) (hid : e.retrieval = id)
      (hknows : Summary (delivered c.table.timeout id a [])
        ((c.call a).correlator.table.progress entry.handle))

/-- A call that is no event of the retrieval leaves its entry as it is. -/
theorem explained_of_same {a : Call} (hlive : c.table.live? id = some entry)
    (hsame : (c.call a).correlator.table.progress entry.handle = c.table.progress entry.handle)
    (hnone : eventsOf id [a] = []) : c.Explained a id entry := by
  refine .kept hlive fun W hW => ?_
  rw [hnone, List.append_nil, hsame]
  exact hW

theorem explained_event (h : LiveTable.Sound c.table) (now : Binary64) (e : Event)
    (hlive : (c.event now e).correlator.table.live? id = some entry) :
    c.Explained (.step (.event now e)) id entry := by
  have htable : (c.call (.step (.event now e))).correlator.table
      = ((Metering.rule e).apply now c.table e.retrieval).table := adopt_table c _
  have hlive : (c.call (.step (.event now e))).correlator.table.live? id = some entry := hlive
  have hknown := LiveTable.known?_of_live hlive
  rw [htable] at hlive hknown
  by_cases hid : e.retrieval = id
  · subst hid
    have hwritten := Action.known?_apply h _ now e.retrieval hknown
    have hone : eventsOf e.retrieval [.step (.event now e)] = [e] := by simp [eventsOf]
    rcases Action.live?_apply h _ now e.retrieval hlive with hold | ⟨hnew, -⟩
    · refine .kept hold fun W hW => ?_
      rw [if_neg (by simp [hold]), LiveTable.known?_of_live hold] at hwritten
      rw [hone, htable, hwritten]
      exact hW.take e
    · refine .made hnew now e rfl rfl ?_
      rw [LiveTable.known?_of_absent hnew] at hwritten
      rw [htable]
      unfold delivered
      -- Without a deadline the entry is made, but the event is not written to it.
      by_cases htimeout : c.table.timeout.toDouble? = none
      · rw [if_pos ⟨hnew, htimeout⟩] at hwritten
        rw [if_pos htimeout, hwritten]
        exact Progress.summary_nil
      · rw [if_neg fun hc => htimeout hc.2] at hwritten
        rw [if_neg htimeout, hone, hwritten]
        exact Progress.summary_nil.take e
  · rcases Action.live?_apply h _ now e.retrieval hlive with hold | ⟨-, hown⟩
    · rw [Action.known?_apply_ne h _ now (Ne.symm hid), LiveTable.known?_of_live hold] at hknown
      refine explained_of_same hold ?_ (by simp [eventsOf, hid])
      rw [htable]
      exact (Option.some.inj hknown).symm
    · exact absurd hown hid

theorem explained_call (h : LiveTable.Sound c.table) (a : Call)
    (hlive : (c.call a).correlator.table.live? id = some entry) : c.Explained a id entry := by
  cases a with
  | step s =>
      cases s with
      | event now e => exact explained_event h now e hlive
      | expire now =>
          have htable : (c.call (.step (.expire now))).correlator.table = (c.table.expire now).2 :=
            adopt_table c _
          rw [htable] at hlive
          obtain ⟨hold, hsame⟩ := h.live?_expire now hlive
          exact explained_of_same hold (by rw [htable, hsame]) rfl
  | record r =>
      have htable : (c.call (.record r)).correlator.table = c.table := c.table_record r
      rw [htable] at hlive
      exact explained_of_same hlive (by rw [htable]) rfl
  | recordWith names r =>
      have htable : (c.call (.recordWith names r)).correlator.table = c.table := c.table_tell _
      rw [htable] at hlive
      exact explained_of_same hlive (by rw [htable]) rfl
  | stop => exact explained_of_same hlive rfl rfl

/-! ### A whole run -/

/-- A live entry was made by some call, and it knows what was delivered since. -/
theorem begun_of_live (h : LiveTable.Sound c.table) (hfresh : c.table.live? id = none)
    (calls : List Call) (hlive : (c.afterCalls calls).table.live? id = some entry) :
    ∃ before first since, calls = before ++ first :: since ∧
      c.Begun id entry before first since ∧
      Summary (delivered c.table.timeout id first since)
        ((c.afterCalls calls).table.progress entry.handle) := by
  induction calls using List.reverseRecOn with
  | nil =>
      rw [show c.afterCalls [] = c from rfl, hfresh] at hlive
      cases hlive
  | append_singleton calls a ih =>
      rw [afterCalls_concat] at hlive ⊢
      obtain ⟨hsound, htimeout⟩ := sound_afterCalls calls h
      -- The last call kept the entry, and then it began earlier, or it made the entry.
      cases explained_call hsound a hlive with
      | kept hold hknows =>
          obtain ⟨before, first, since, hcalls, hbegun, hsummary⟩ := ih hold
          refine ⟨before, first, since ++ [a], ?_, ⟨hbegun.absent, hbegun.event, ?_⟩, ?_⟩
          · rw [hcalls]
            simp
          · intro mid hmid
            rcases List.prefix_concat_iff.mp hmid with rfl | hmid
            · rw [← List.cons_append, ← List.append_assoc, ← hcalls, afterCalls_concat]
              exact hlive
            · exact hbegun.stays mid hmid
          · rw [delivered_concat]
            exact hknows _ hsummary
      | made hnew now e hevent hid hknows =>
          refine ⟨calls, a, [], rfl, ⟨hnew, ⟨now, e, hevent, hid⟩, ?_⟩, ?_⟩
          · intro mid hmid
            rw [List.prefix_nil.mp hmid, afterCalls_concat]
            exact hlive
          · rw [← htimeout]
            exact hknows

/-- A success that ends a live retrieval, and is not stopped, reports the events of its retrieval
that were delivered since the call that made it live: neither those before, nor those of others. -/
theorem success_reports {timeout : Number} {capacity : Int} {pool : Pool} {table : LiveTable}
    (hpool : Pool.ofCapacity capacity = .ok pool)
    (htable : LiveTable.ofTimeout timeout pool = .ok table) (resolver : Option Resolver)
    (meter : Option Meter) (calls : List Call) (now : Binary64) (e : Event)
    (hphase : e.phase = .retrieval) (hcode : e.code = .success) {entry : LiveEntry} :
    let c : Correlator := { table := table, resolver := resolver, meter := meter }
    (c.afterCalls calls).table.live? e.retrieval = some entry →
    ((c.afterCalls calls).event now e).fault = none →
    ∃ before first since, calls = before ++ first :: since ∧
      c.Begun e.retrieval entry before first since ∧
      e.Reports (delivered timeout e.retrieval first since)
        ((c.afterCalls calls).event now e).updates := by
  intro c hlive hfault
  have hsound : LiveTable.Sound c.table := LiveTable.sound_of_ofTimeout hpool htable
  obtain rfl := LiveTable.eq_of_ofTimeout htable
  obtain ⟨before, first, since, hcalls, hbegun, hsummary⟩ := begun_of_live hsound rfl calls hlive
  refine ⟨before, first, since, hcalls, hbegun, ?_⟩
  have hrule := Metering.rule_success hphase hcode
  have hfault := fault_of_adopt hfault
  have hupdates : ((c.afterCalls calls).event now e).updates
      = (Metering.event now (c.afterCalls calls).table e).updates := adopt_updates _ _
  rw [hupdates]
  unfold Metering.event at hfault ⊢
  rw [hrule, Action.apply, LiveTable.finish_some hlive] at hfault ⊢
  exact Metering.reports_successUpdates hsummary hfault

/-- A retrieval that ended once fails, and gets its first byte two seconds before it succeeds with a
thousand bytes.  It has the slot of its first life again, and nothing else of it. -/
theorem success_reports_second_life :
    let table : LiveTable := { timeout := .int 60, pool := { capacity := 4 } }
    let c : Correlator := { table := table }
    let now : Binary64 := .zero false
    let calls : List Call :=
      [.step (.event now (.bare ⟨1⟩ .indexer .started)),
       .step (.event now (.bare ⟨1⟩ .retrieval .failure)),
       .step (.event now (.bare ⟨1⟩ .retrieval .success)),
       .step (.event now (.bare ⟨1⟩ .retrieval .failure)),
       .step (.event now (.bare ⟨2⟩ .retrieval .failure)),
       .stop,
       .step (.event now (.bare ⟨1⟩ .retrieval .firstByte))]
    let e : Event :=
      { Event.bare ⟨1⟩ .retrieval .success with
        time := ⟨2000000, 0⟩
        raw := .object [("receivedSize", .number (.int 1000))] }
    let updates := ((c.afterCalls calls).event now e).updates
    (c.afterCalls calls).table.live? ⟨1⟩ = some ⟨⟨0, 2⟩, 1⟩ ∧
      (∃ before first since, calls = before ++ first :: since ∧
        c.Begun ⟨1⟩ ⟨⟨0, 2⟩, 1⟩ before first since ∧
        e.Reports (delivered (.int 60) ⟨1⟩ first since) updates) ∧
      Update.sampled .failuresPerRequest updates = [(.int 1, [])] ∧
      Update.sampled .dealDuration updates = [] ∧
      Update.sampled .bandwidth updates = [(.int 500, Update.protocol "bitswap")] := by
  intro table c now calls e updates
  have hpool : Pool.ofCapacity 4 = .ok { capacity := 4 } := rfl
  have htable : LiveTable.ofTimeout (.int 60) { capacity := 4 } = .ok table := rfl
  have hlive : (c.afterCalls calls).table.live? ⟨1⟩ = some ⟨⟨0, 2⟩, 1⟩ := by decide +kernel
  have hfault : ((c.afterCalls calls).event now e).fault = none := by decide +kernel
  refine ⟨hlive, success_reports hpool htable none none calls now e rfl rfl hlive hfault, ?_⟩
  decide +kernel

end Correlator

end RetrievalTelemetry
