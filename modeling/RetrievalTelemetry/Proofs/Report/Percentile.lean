/-
The order of a sample does not matter to its percentiles.

A sample is sorted before anything is read from it.  Sorting keeps the order of values that compare
equal; if the values are plain doubles, such values are equal, so nothing of the order is left.
-/
import RetrievalTelemetry.Proofs.Binary64.Canonical
import RetrievalTelemetry.Report.Percentile

namespace RetrievalTelemetry.Percentile

open Binary64 (IsPlain)

/-- A sorted sample is in ascending order. -/
theorem pairwise_sorted {sample : List Binary64} (h : ∀ x ∈ sample, x.isNaN = false) :
    (sorted sample).Pairwise fun a b => a.rank ≤ b.rank := by
  -- A NaN would break the order, so the comparison is replaced on the sample only.
  have hranks : sorted sample = sample.mergeSort fun a b => decide (a.rank ≤ b.rank) := by
    unfold sorted
    rw [← List.map_id (sample.mergeSort fun a b => !(b.lt a)),
      List.map_mergeSort (s := fun a b => decide (a.rank ≤ b.rank)), List.map_id]
    intro a ha b hb
    have hlt := Binary64.lt_iff (h b hb) (h a ha)
    cases hba : b.lt a with
    | true => simpa using hlt.mp hba
    | false =>
        rw [hba] at hlt
        simpa using hlt
  have hsorted : (sample.mergeSort fun a b => decide (a.rank ≤ b.rank)).Pairwise
      fun a b => decide (a.rank ≤ b.rank) = true :=
    List.pairwise_mergeSort
      (fun a b c hab hbc => by
        simp only [decide_eq_true_eq] at hab hbc ⊢
        exact hab.trans hbc)
      (fun a b => by simpa using le_total a.rank b.rank) sample
  rw [hranks]
  exact hsorted.imp fun hab => by simpa using hab

/-- A sample of plain doubles has one ascending order. -/
theorem sorted_eq_of_perm {sample sample' : List Binary64} (hperm : sample.Perm sample')
    (hplain : ∀ x ∈ sample, x.IsPlain) : sorted sample = sorted sample' := by
  have hplain' : ∀ x ∈ sample', x.IsPlain := fun x hx => hplain x (hperm.mem_iff.mpr hx)
  have hsort : (sorted sample).Perm (sorted sample') :=
    (List.mergeSort_perm ..).trans (hperm.trans (List.mergeSort_perm ..).symm)
  refine hsort.eq_of_pairwise (fun a b ha hb hab hba => ?_)
    (pairwise_sorted fun x hx => (hplain x hx).isNaN)
    (pairwise_sorted fun x hx => (hplain' x hx).isNaN)
  have ha := hplain a (List.mem_mergeSort.mp ha)
  have hb := hplain' b (List.mem_mergeSort.mp hb)
  exact ha.eq_of_rank_eq hb (le_antisymm hab hba)

/-- Permuted samples of plain doubles have the same percentiles, or fail in the same way. -/
theorem ofSample_eq_of_perm {sample sample' : List Binary64} (hperm : sample.Perm sample')
    (hplain : ∀ x ∈ sample, x.IsPlain) (fractions : List Binary64) :
    ofSample sample fractions = ofSample sample' fractions := by
  have hempty : sample.isEmpty = sample'.isEmpty := by
    rw [Bool.eq_iff_iff, List.isEmpty_iff, List.isEmpty_iff]
    exact ⟨fun h => (h ▸ hperm).nil_eq.symm, fun h => (h ▸ hperm).eq_nil⟩
  unfold ofSample
  rw [hempty, sorted_eq_of_perm hperm hplain]

end RetrievalTelemetry.Percentile
