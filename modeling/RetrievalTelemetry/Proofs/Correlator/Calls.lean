/-
Everything that can be asked of a correlator, in any order.

Besides the steps of a run, a correlator is given records, with or without the names of their
providers, and it is stopped.  None of this touches the live table, so what holds of the table
between the steps of a run holds between calls as well.
-/
import RetrievalTelemetry.Proofs.Correlator.Run
import RetrievalTelemetry.Proofs.Metering.Lineage

namespace RetrievalTelemetry

namespace Correlator

/-- What a correlator is asked for. -/
inductive Call where
  | step (s : Step)
  | record (r : Record)
  /-- A record whose providers' names were looked up before. -/
  | recordWith (names : Metering.Names) (r : Record)
  | stop

/-- Does what is asked. -/
def call (c : Correlator) : Call → Correlated
  | .step s => c.step s
  | .record r => c.record r
  | .recordWith names r => c.recordWith names r
  | .stop => { correlator := c.stop }

/-- The correlator after calls in their order; what stops one of them does not stop the next. -/
def afterCalls (c : Correlator) (calls : List Call) : Correlator :=
  calls.foldl (fun c a => (c.call a).correlator) c

theorem afterCalls_append (c : Correlator) (as bs : List Call) :
    c.afterCalls (as ++ bs) = (c.afterCalls as).afterCalls bs :=
  List.foldl_append

theorem afterCalls_concat (c : Correlator) (as : List Call) (a : Call) :
    c.afterCalls (as ++ [a]) = ((c.afterCalls as).call a).correlator :=
  c.afterCalls_append as [a]

/-! ### What a record leaves alone -/

theorem table_tell (c : Correlator) (updates : List Update) :
    (c.tell updates).correlator.table = c.table := by
  unfold tell
  cases c.meter <;> rfl

theorem table_names (c : Correlator) (r : Record) : (c.names r).2.table = c.table := by
  unfold names
  cases c.resolver <;> rfl

theorem table_record (c : Correlator) (r : Record) : (c.record r).correlator.table = c.table := by
  have hnames := c.table_names r
  unfold record
  rcases h : c.names r with ⟨found, c'⟩
  rw [h] at hnames
  cases found with
  | error error => exact hnames
  | ok names => exact (c'.table_tell _).trans hnames

/-- A call is a step, or it leaves the live table alone. -/
theorem table_call (c : Correlator) (a : Call) :
    (∃ s, a = .step s) ∨ (c.call a).correlator.table = c.table := by
  cases a with
  | step s => exact Or.inl ⟨s, rfl⟩
  | record r => exact Or.inr (c.table_record r)
  | recordWith names r => exact Or.inr (c.table_tell _)
  | stop => exact Or.inr rfl

/-! ### What all calls keep -/

/-- A step keeps the table sound and the lifetime of its entries. -/
theorem sound_step {c : Correlator} (h : LiveTable.Sound c.table) (s : Step) :
    LiveTable.Sound (c.step s).correlator.table ∧
      (c.step s).correlator.table.timeout = c.table.timeout := by
  refine ⟨(balanced_step h s).sound, ?_⟩
  cases s with
  | event now e =>
      have htable : (c.event now e).correlator.table
          = ((Metering.rule e).apply now c.table e.retrieval).table := adopt_table c _
      show (c.event now e).correlator.table.timeout = _
      rw [htable, Action.timeout_apply]
  | expire now =>
      have htable : (c.expire now).correlator.table = (c.table.expire now).2 := adopt_table c _
      show (c.expire now).correlator.table.timeout = _
      rw [htable, h.timeout_expire]

theorem sound_afterCalls (calls : List Call) {c : Correlator} (h : LiveTable.Sound c.table) :
    LiveTable.Sound (c.afterCalls calls).table ∧
      (c.afterCalls calls).table.timeout = c.table.timeout := by
  induction calls generalizing c with
  | nil => exact ⟨h, rfl⟩
  | cons a rest ih =>
      have hcall : LiveTable.Sound (c.call a).correlator.table ∧
          (c.call a).correlator.table.timeout = c.table.timeout := by
        rcases c.table_call a with ⟨s, rfl⟩ | hsame
        · exact sound_step h s
        · rw [hsame]
          exact ⟨h, rfl⟩
      obtain ⟨hsound, htimeout⟩ := ih hcall.1
      exact ⟨hsound, htimeout.trans hcall.2⟩

end Correlator

end RetrievalTelemetry
