/-
The queue of deadlines.

Deadlines that are numbers are linearly ordered by their time and then by the number of their
entry.  Inserting keeps a queue in this order, and in an ordered queue those that are due form
a prefix, so that taking the due ones off the front is the same as picking them out.

A deadline that is a NaN comes neither before nor after anything.  It can hide due deadlines
behind it, and for that reason everything said here of the order is said of queues without a NaN.
-/
import Mathlib.Data.List.Nodup
import RetrievalTelemetry.Live.Table
import RetrievalTelemetry.Proofs.Binary64.Order

namespace RetrievalTelemetry

namespace Deadline

/-- No deadline of the queue is a NaN. -/
def Clear (queue : List Deadline) : Prop := ∀ d ∈ queue, d.time.isNaN = false

theorem isBefore_iff {a b : Deadline} (ha : a.time.isNaN = false) (hb : b.time.isNaN = false) :
    a.isBefore b = true ↔
      a.time.rank < b.time.rank ∨ a.time.rank = b.time.rank ∧ a.sequence < b.sequence := by
  unfold isBefore
  by_cases heq : a.time.eq b.time = true
  · have hrank := (Binary64.eq_iff ha hb).mp heq
    simp [heq, hrank]
  · have hrank := mt (Binary64.eq_iff ha hb).mpr heq
    simp [heq, hrank, Binary64.lt_iff ha hb]

theorem isBefore_trans {a b c : Deadline} (ha : a.time.isNaN = false)
    (hb : b.time.isNaN = false) (hc : c.time.isNaN = false) (hab : a.isBefore b = true)
    (hbc : b.isBefore c = true) : a.isBefore c = true := by
  rw [isBefore_iff ha hb] at hab
  rw [isBefore_iff hb hc] at hbc
  rw [isBefore_iff ha hc]
  rcases hab with hab | ⟨hab, hnum⟩ <;> rcases hbc with hbc | ⟨hbc, hnum'⟩
  · exact Or.inl (hab.trans hbc)
  · exact Or.inl (hbc ▸ hab)
  · exact Or.inl (hab ▸ hbc)
  · exact Or.inr ⟨hab.trans hbc, Nat.lt_trans hnum hnum'⟩

/-- Of two deadlines with different numbers, one comes first. -/
theorem isBefore_total {a b : Deadline} (ha : a.time.isNaN = false)
    (hb : b.time.isNaN = false) (hne : a.sequence ≠ b.sequence) (h : ¬a.isBefore b = true) :
    b.isBefore a = true := by
  rw [isBefore_iff ha hb] at h
  rw [isBefore_iff hb ha]
  rcases lt_trichotomy a.time.rank b.time.rank with hr | hr | hr
  · exact absurd (Or.inl hr) h
  · refine Or.inr ⟨hr.symm, ?_⟩
    have hnum : ¬a.sequence < b.sequence := fun hlt => h (Or.inr ⟨hr, hlt⟩)
    omega
  · exact Or.inl hr

/-! ### Inserting -/

theorem insert_perm (d : Deadline) (queue : List Deadline) :
    (d.insert queue).Perm (d :: queue) := by
  induction queue with
  | nil => exact List.Perm.refl _
  | cons e rest ih =>
      unfold insert
      split
      · exact List.Perm.refl _
      · exact (ih.cons e).trans (List.Perm.swap d e rest)

theorem mem_insert {d e : Deadline} {queue : List Deadline} :
    e ∈ d.insert queue ↔ e = d ∨ e ∈ queue := by
  rw [(insert_perm d queue).mem_iff, List.mem_cons]

/-- Inserting keeps the order. -/
theorem pairwise_insert {d : Deadline} {queue : List Deadline}
    (hclear : Clear (d.insert queue)) (hnew : ∀ e ∈ queue, d.sequence ≠ e.sequence)
    (h : queue.Pairwise fun a b => a.isBefore b = true) :
    (d.insert queue).Pairwise fun a b => a.isBefore b = true := by
  induction queue with
  | nil => exact List.pairwise_singleton _ _
  | cons e rest ih =>
      obtain ⟨hhead, htail⟩ := List.pairwise_cons.mp h
      have hd : d.time.isNaN = false := hclear d (mem_insert.mpr (Or.inl rfl))
      have hmem : ∀ f ∈ e :: rest, f.time.isNaN = false :=
        fun f hf => hclear f (mem_insert.mpr (Or.inr hf))
      have he : e.time.isNaN = false := hmem e (by simp)
      unfold insert at hclear ⊢
      split
      · rename_i hbefore
        refine List.pairwise_cons.mpr ⟨?_, h⟩
        intro f hf
        rcases List.mem_cons.mp hf with rfl | hf
        · exact hbefore
        · exact isBefore_trans hd he (hmem f (by simp [hf])) hbefore (hhead f hf)
      · rename_i hbefore
        rw [if_neg hbefore] at hclear
        refine List.pairwise_cons.mpr ⟨?_, ih (fun f hf => hclear f (List.mem_cons_of_mem e hf))
          (fun f hf => hnew f (List.mem_cons_of_mem e hf)) htail⟩
        intro f hf
        rcases mem_insert.mp hf with rfl | hf
        · exact isBefore_total hd he (hnew e (by simp)) hbefore
        · exact hhead f hf

/-! ### The due deadlines are a prefix -/

private theorem prefix_of_closed {α : Type} {R : α → α → Prop} {p : α → Bool} {l : List α}
    (hl : l.Pairwise R) (hp : ∀ a ∈ l, ∀ b ∈ l, R a b → p b = true → p a = true) :
    l.takeWhile p = l.filter p ∧ l.dropWhile p = l.filter fun a => !p a := by
  induction l with
  | nil => exact ⟨rfl, rfl⟩
  | cons a rest ih =>
      obtain ⟨hhead, htail⟩ := List.pairwise_cons.mp hl
      by_cases ha : p a = true
      · obtain ⟨ht, hd⟩ := ih htail fun b hb c hc =>
          hp b (List.mem_cons_of_mem a hb) c (List.mem_cons_of_mem a hc)
        simp [ha, ht, hd]
      · -- Nothing behind the first that fails can pass.
        have hrest : ∀ b ∈ rest, p b = false := by
          intro b hb
          by_contra hpb
          exact ha (hp a (by simp) b (by simp [hb]) (hhead b hb) (by simpa using hpb))
        have hfilter : rest.filter p = [] := by
          simpa [List.filter_eq_nil_iff] using hrest
        have hrest' : (rest.filter fun b => !p b) = rest := by
          simpa [List.filter_eq_self] using hrest
        simp [ha, hfilter, hrest']

theorem le_of_isBefore {a b : Deadline} {now : Binary64} (ha : a.time.isNaN = false)
    (hab : a.isBefore b = true) (hb : b.time.le now = true) : a.time.le now = true := by
  obtain ⟨hbn, hnow⟩ := Binary64.not_isNaN_of_le hb
  rw [Binary64.le_iff hbn hnow] at hb
  rw [Binary64.le_iff ha hnow]
  rcases (isBefore_iff ha hbn).mp hab with h | ⟨h, -⟩
  · exact h.le.trans hb
  · exact h ▸ hb

/-- Taking the due deadlines off the front of an ordered queue picks out exactly the due ones; the
same is true of any queue in which nothing is due. -/
theorem due_prefix {queue : List Deadline} {now : Binary64}
    (hordered : Clear queue → queue.Pairwise fun a b => a.isBefore b = true)
    (h : Clear queue ∨ ∀ d ∈ queue, d.time.le now = false) :
    queue.takeWhile (fun d => d.time.le now) = queue.filter (fun d => d.time.le now) ∧
      queue.dropWhile (fun d => d.time.le now) = queue.filter fun d => !d.time.le now := by
  rcases h with h | h
  · exact prefix_of_closed (hordered h) fun a ha b _ hab hb => le_of_isBefore (h a ha) hab hb
  · exact prefix_of_closed (List.pairwise_of_forall (R := fun _ _ => True) fun _ _ => trivial)
      fun a _ b hb _ hdue => absurd hdue (by simp [h b hb])

end Deadline

end RetrievalTelemetry
