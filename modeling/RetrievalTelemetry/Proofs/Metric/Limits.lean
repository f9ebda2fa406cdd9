/-
What a meter cannot take.

A meter fails over a whole number that is too large for a double.  It could also fail over a sum: a
histogram that is told doubles and whole numbers has a sum that is a double or not depending on their
order, and a whole sum may be too large to add a double to.  No histogram is told both, so this does
not happen.  `Suits h` says of a sample, and of the sum of a series, that it is of the kind that the
histogram is told; it holds of every update and is kept by a meter.
-/
import RetrievalTelemetry.Metric.Meter

namespace RetrievalTelemetry

/-- Whether a histogram is told spans of time. -/
def Histogram.isSpan : Histogram → Bool
  | timeToFirstCandidate | timeToFirstByte | dealDuration => true
  | _ => false

namespace Number

/-- Whether a number counts, but is too large for a double. -/
def isTooLarge (value : Number) : Bool := !value.lt (.int 0) && value.toDouble?.isNone

/-- A number of the kind that a histogram is told: a double for a span of time, a whole number for
all else.  Nothing is nothing of either kind. -/
def Suits (h : Histogram) : Number → Prop
  | int n => h.isSpan = true → n = 0
  | double _ => h.isSpan = true

/-- The sum of two numbers of a kind is one of that kind. -/
theorem Suits.add {h : Histogram} {a b : Number} (ha : a.Suits h) (hb : b.Suits h) :
    ∃ sum, a.add b = .ok sum ∧ sum.Suits h := by
  have hzero : (int 0).toDouble? = some (Binary64.ofInt 0) := rfl
  cases a with
  | int m =>
      cases b with
      | int n =>
          refine ⟨_, rfl, fun hspan => ?_⟩
          rw [ha hspan, hb hspan]
          rfl
      | double y =>
          obtain rfl : m = 0 := ha hb
          unfold Number.add
          dsimp only
          rw [hzero]
          exact ⟨_, rfl, hb⟩
  | double x =>
      cases b with
      | int n =>
          obtain rfl : n = 0 := hb ha
          unfold Number.add
          dsimp only
          rw [hzero]
          exact ⟨_, rfl, ha⟩
      | double y => exact ⟨_, rfl, ha⟩

end Number

namespace Update

def value : Update → Number
  | add _ delta _ => .int delta
  | record _ value _ => value

/-- A counter grows by one at a time, and a sample is of the kind that its histogram is told. -/
def Suits : Update → Prop
  | add _ delta _ => delta = 1
  | record h value _ => value.Suits h

end Update

/-- A field that is put is the only one that is new. -/
theorem mem_putField {α β : Type} [BEq α] [LawfulBEq α] {key : α} {value : β} {l : List (α × β)}
    {entry : α × β} (h : entry ∈ putField key value l) : entry = (key, value) ∨ entry ∈ l := by
  induction l with
  | nil => exact Or.inl (List.mem_singleton.mp h)
  | cons first rest ih =>
      unfold putField at h
      split at h
      · rename_i hkey
        rw [beq_iff_eq] at hkey
        rcases List.mem_cons.mp h with rfl | h
        · exact Or.inl (by rw [hkey])
        · exact Or.inr (List.mem_cons_of_mem _ h)
      · rcases List.mem_cons.mp h with rfl | h
        · exact Or.inr List.mem_cons_self
        · exact (ih h).imp_right (List.mem_cons_of_mem _)

namespace Meter

/-- The sums of all series are of the kinds that their histograms are told. -/
def Suits (m : Meter) : Prop := ∀ entry ∈ m.distributions, entry.2.sum.Suits entry.1.1

theorem suits_new (name : String) : Suits { name := name } := by
  intro entry h
  cases h

/-- What becomes of a number, if doing what is to be done with it cannot fail. -/
theorem taking_eq (m : Meter) (value : Number) (take : Unit → Except ArithmeticError Meter)
    {taken : Meter} (htake : take () = .ok taken) :
    ∃ m', (m' = m ∨ m' = taken) ∧
      m.taking value take
        = if m.isSilent = false ∧ value.isTooLarge = true then .error .tooLarge else .ok m' := by
  unfold taking Number.isTooLarge
  rw [htake]
  cases m.isSilent with
  | true => exact ⟨m, Or.inl rfl, rfl⟩
  | false =>
      cases value.lt (.int 0) with
      | true => exact ⟨m, Or.inl rfl, rfl⟩
      | false =>
          cases value.toDouble? with
          | none => exact ⟨m, Or.inl rfl, rfl⟩
          | some x =>
              cases hx : x.isFinite with
              | true => exact ⟨taken, Or.inr rfl, by simp [hx]⟩
              | false => exact ⟨m, Or.inl rfl, by simp [hx]⟩

/-- The sum that a sample is added to, if there is one, is of the kind of its histogram. -/
theorem Suits.series {m : Meter} (hm : m.Suits) (h : Histogram) (attributes : Attributes) :
    ((m.distributions.lookup (h, attributes)).getD (Distribution.empty h.boundaries)).sum.Suits h := by
  cases hfound : m.distributions.lookup (h, attributes) with
  | none => exact fun _ => rfl
  | some d =>
      obtain ⟨before, after, hsplit, -⟩ := List.lookup_eq_some_iff.mp hfound
      have hmem : ((h, attributes), d) ∈ m.distributions := by simp [hsplit]
      exact hm _ hmem

/-- What becomes of an update. -/
theorem apply_eq {m : Meter} (hm : m.Suits) {u : Update} (hu : u.Suits) :
    ∃ m' : Meter, m'.Suits ∧ m'.name = m.name ∧
      m.apply u
        = if m.isSilent = false ∧ u.value.isTooLarge = true then .error .tooLarge else .ok m' := by
  cases u with
  | add counter delta attributes =>
      obtain ⟨m', hm', heq⟩ := m.taking_eq (.int delta) (fun _ =>
        .ok { m with sums := putField (counter, series attributes) _ m.sums }) rfl
      refine ⟨m', ?_, ?_, heq⟩
      · rcases hm' with rfl | rfl <;> exact hm
      · rcases hm' with rfl | rfl <;> rfl
  | record histogram value attributes =>
      have hseries := hm.series histogram (series attributes)
      generalize hd : (m.distributions.lookup (histogram, series attributes)).getD
        (Distribution.empty histogram.boundaries) = d at hseries
      obtain ⟨sum, hadd, hsum⟩ := hseries.add hu
      have htake : ∃ d' : Distribution, d'.sum = sum ∧
          d.add histogram.boundaries value = .ok d' := by
        unfold Distribution.add
        rw [hadd]
        exact ⟨_, rfl, rfl⟩
      obtain ⟨d', hd', htaken⟩ := htake
      obtain ⟨m', hm', heq⟩ := m.taking_eq value (fun _ =>
        (d.add histogram.boundaries value).map fun d =>
          { m with distributions := putField (histogram, series attributes) d m.distributions })
        (by rw [htaken]; rfl)
      refine ⟨m', ?_, ?_, ?_⟩
      · rcases hm' with rfl | rfl
        · exact hm
        · intro entry hentry
          rcases mem_putField hentry with rfl | hold
          · exact hd' ▸ hsum
          · exact hm entry hold
      · rcases hm' with rfl | rfl <;> rfl
      · rw [← hd] at heq
        exact heq

/-- A meter with a name fails over updates if the number of one of them is too large. -/
theorem applyAll_fault {m : Meter} (hm : m.Suits) {updates : List Update}
    (hupdates : ∀ u ∈ updates, u.Suits) :
    ((m.applyAll updates).1.Suits ∧ (m.applyAll updates).1.name = m.name) ∧
      ((m.applyAll updates).2 ≠ none ↔
        m.isSilent = false ∧ ∃ u ∈ updates, u.value.isTooLarge = true) := by
  induction updates generalizing m with
  | nil => simpa [applyAll] using hm
  | cons u rest ih =>
      obtain ⟨hu, hrest⟩ := List.forall_mem_cons.mp hupdates
      obtain ⟨m', hm', hname, happly⟩ := apply_eq hm hu
      unfold applyAll
      rw [happly]
      by_cases hlarge : m.isSilent = false ∧ u.value.isTooLarge = true
      · rw [if_pos hlarge]
        refine ⟨⟨hm, rfl⟩, ?_⟩
        simp [hlarge.1, hlarge.2]
      · rw [if_neg hlarge]
        obtain ⟨⟨hsuits, hname'⟩, hfault⟩ := ih hm' hrest
        have hsilent : m'.isSilent = m.isSilent := by
          unfold isSilent
          rw [hname]
        refine ⟨⟨hsuits, hname'.trans hname⟩, ?_⟩
        rw [hfault, hsilent]
        simp only [List.mem_cons, exists_eq_or_imp]
        rw [and_or_left, or_iff_right hlarge]

end Meter

end RetrievalTelemetry
