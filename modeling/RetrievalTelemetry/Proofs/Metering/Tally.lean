/-
What the rules tell, counted.

Three counters say how a retrieval ended: it succeeded, its indexer failed, or its time was up.
`Fair updates n` says of the updates of one step that they report the end of `n` retrievals, that
each success is also counted for one transport, and that each success gives one sample of
every histogram per request.  Every rule is fair, for one end if it ends a retrieval and for none
otherwise; nothing else about the rules is needed to count retrievals.

The samples of a success are the last thing it tells, so a step that a fault stops may miss them.
That is why they are promised for complete steps only.
-/
import RetrievalTelemetry.Metering.Event

namespace RetrievalTelemetry

/-- The histograms that get one sample for each success. -/
def Histogram.perSuccess : List Histogram :=
  [candidatesPerRequest, filteredPerRequest, failuresPerRequest]

namespace Update

/-- A call that adds to a counter. -/
def isAdd (c : Counter) : Update → Bool
  | add c' _ _ => c' = c
  | record .. => false

/-- A call that gives a sample to a histogram. -/
def isSample (h : Histogram) : Update → Bool
  | add .. => false
  | record h' _ _ => h' = h

/-- A call that reports the end of a retrieval. -/
def isOutcome (u : Update) : Bool :=
  u.isAdd .success || u.isAdd .indexerFailures || u.isAdd .expired

/-- What is added to a counter, with the attributes. -/
def added (c : Counter) (updates : List Update) : List (Int × Attributes) :=
  updates.filterMap fun
    | .add c' delta attributes => if c' = c then some (delta, attributes) else none
    | .record .. => none

/-- The amounts that are added to a counter. -/
def increments (c : Counter) (updates : List Update) : List Int :=
  (added c updates).map fun addition => addition.1

/-- How often a counter is added to. -/
def adds (c : Counter) (updates : List Update) : Nat := (increments c updates).length

/-- How many samples a histogram is given. -/
def samples (h : Histogram) (updates : List Update) : Nat := updates.countP (isSample h)

/-- How many ends of retrievals are reported. -/
def outcomes (updates : List Update) : Nat := updates.countP isOutcome

theorem added_append (c : Counter) (us vs : List Update) :
    added c (us ++ vs) = added c us ++ added c vs :=
  List.filterMap_append

theorem increments_append (c : Counter) (us vs : List Update) :
    increments c (us ++ vs) = increments c us ++ increments c vs := by
  unfold increments
  rw [added_append, List.map_append]

@[simp] theorem adds_append (c : Counter) (us vs : List Update) :
    adds c (us ++ vs) = adds c us + adds c vs := by
  rw [adds, increments_append, List.length_append]
  rfl

/-- A counter is added to by the calls that add to it. -/
theorem adds_eq_countP (c : Counter) (updates : List Update) :
    adds c updates = updates.countP (isAdd c) := by
  induction updates with
  | nil => rfl
  | cons u rest ih =>
      have hone : adds c [u] = (isAdd c u).toNat := by
        cases u with
        | record h value attributes => rfl
        | add c' delta attributes =>
            by_cases hc : c' = c <;> simp [adds, increments, added, isAdd, hc]
      rw [← List.singleton_append, adds_append, hone, ih, List.singleton_append, List.countP_cons,
        Nat.add_comm]
      cases isAdd c u <;> rfl

@[simp] theorem samples_append (h : Histogram) (us vs : List Update) :
    samples h (us ++ vs) = samples h us + samples h vs :=
  List.countP_append

@[simp] theorem outcomes_append (us vs : List Update) :
    outcomes (us ++ vs) = outcomes us + outcomes vs :=
  List.countP_append

/-- The end of a retrieval is counted by exactly one of the three counters. -/
theorem outcomes_eq (updates : List Update) :
    outcomes updates
      = adds .success updates + adds .indexerFailures updates + adds .expired updates := by
  induction updates with
  | nil => rfl
  | cons u rest ih =>
      have hone : (isOutcome u).toNat
          = (isAdd .success u).toNat + (isAdd .indexerFailures u).toNat
            + (isAdd .expired u).toNat := by
        cases u with
        | record h value attributes => rfl
        | add c delta attributes =>
            unfold isOutcome isAdd
            by_cases hs : c = .success
            · subst hs; rfl
            · by_cases hi : c = .indexerFailures
              · subst hi; rfl
              · simp [hs, hi]
      have hcons : ∀ p : Update → Bool, (u :: rest).countP p = rest.countP p + (p u).toNat := by
        intro p
        rw [List.countP_cons]
        cases p u <;> rfl
      simp only [adds_eq_countP] at ih ⊢
      unfold outcomes at ih ⊢
      rw [hcons, hcons, hcons, hcons, ih, hone]
      omega

/-- What the updates of a step owe the count of retrievals. -/
structure Fair (updates : List Update) (ended : Nat) (complete : Prop) : Prop where
  outcomes : outcomes updates = ended
  split : adds .success updates = adds .bitswapSuccess updates + adds .graphsyncSuccess updates
  samples : complete → ∀ h ∈ Histogram.perSuccess, samples h updates = adds .success updates

theorem Fair.expired {updates : List Update} {complete : Prop} (h : Fair updates 0 complete) :
    adds .expired updates = 0 := by
  have hsum := outcomes_eq updates
  rw [h.outcomes] at hsum
  omega

/-- Nothing told is fair. -/
theorem fair_nil (complete : Prop) : Fair [] 0 complete :=
  ⟨rfl, rfl, fun _ _ _ => rfl⟩

theorem Fair.append {us vs : List Update} {m n : Nat} {p q : Prop} (hu : Fair us m p)
    (hv : Fair vs n q) : Fair (us ++ vs) (m + n) (p ∧ q) where
  outcomes := by rw [outcomes_append, hu.outcomes, hv.outcomes]
  split := by
    rw [adds_append, adds_append, adds_append, hu.split, hv.split]
    omega
  samples hpq h hh := by
    rw [adds_append, samples_append, hu.samples hpq.1 h hh, hv.samples hpq.2 h hh]

/-- A call that takes no part in the count. -/
def isIdle (u : Update) : Bool :=
  !(u.isOutcome || u.isAdd .bitswapSuccess || u.isAdd .graphsyncSuccess ||
    Histogram.perSuccess.any u.isSample)

theorem idle_singleton {u : Update} (hu : isIdle u = true) : ∀ v ∈ [u], isIdle v = true :=
  List.forall_mem_singleton.mpr hu

/-- Idle calls count for nothing. -/
theorem counts_of_idle {updates : List Update} (hidle : ∀ u ∈ updates, isIdle u = true) :
    outcomes updates = 0 ∧ adds .success updates = 0 ∧ adds .bitswapSuccess updates = 0 ∧
      adds .graphsyncSuccess updates = 0 ∧ ∀ h ∈ Histogram.perSuccess, samples h updates = 0 := by
  have hno : ∀ u ∈ updates, isOutcome u = false ∧ isAdd .success u = false ∧
      isAdd .bitswapSuccess u = false ∧ isAdd .graphsyncSuccess u = false ∧
      ∀ h ∈ Histogram.perSuccess, isSample h u = false := by
    intro u hu
    have hu := hidle u hu
    unfold isIdle isOutcome at hu
    simp only [Bool.not_eq_true', Bool.or_eq_false_iff, List.any_eq_false] at hu
    simp_all [isOutcome]
  have hzero : ∀ p : Update → Bool, (∀ u ∈ updates, p u = false) → updates.countP p = 0 :=
    fun p hp => List.countP_eq_zero.mpr fun u hu => by simp [hp u hu]
  simp only [adds_eq_countP]
  exact ⟨hzero _ fun u hu => (hno u hu).1, hzero _ fun u hu => (hno u hu).2.1,
    hzero _ fun u hu => (hno u hu).2.2.1, hzero _ fun u hu => (hno u hu).2.2.2.1,
    fun h hh => hzero _ fun u hu => (hno u hu).2.2.2.2 h hh⟩

theorem fair_of_idle {updates : List Update} (hidle : ∀ u ∈ updates, isIdle u = true)
    (complete : Prop) : Fair updates 0 complete := by
  obtain ⟨houtcomes, hsuccess, hbitswap, hgraphsync, hsamples⟩ := counts_of_idle hidle
  refine ⟨houtcomes, ?_, fun _ h hh => ?_⟩
  · rw [hsuccess, hbitswap, hgraphsync]
  · rw [hsuccess, hsamples h hh]

end Update

/-! ### The rules -/

/-- What an action owes the count of retrievals; that a time was up is not for it to say. -/
def Action.Fair : Action → Prop
  | .mark _ told => ∀ answer start, Update.Fair (told answer start) 0 True
  | .close told => ∀ p, Update.Fair (told p).1 1 ((told p).2 = none) ∧
      Update.adds .expired (told p).1 = 0
  | .tell updates => Update.Fair updates 0 True

namespace Metering

open Update

theorem fair_ifFirst {mark : Mark} {updates : Option Timestamp → List Update}
    (hidle : ∀ start, ∀ u ∈ updates start, isIdle u = true) :
    Action.Fair (.mark mark (ifFirst updates)) := by
  intro answer start
  unfold ifFirst
  split
  · exact fair_of_idle (hidle _) True
  · exact fair_of_idle (by simp) True

theorem idle_sinceStart {h : Histogram} (hh : h ∉ Histogram.perSuccess) (time : Timestamp)
    (attributes : Attributes) (start : Option Timestamp) :
    ∀ u ∈ sinceStart h time attributes start, isIdle u = true := by
  intro u hu
  cases start with
  | none => cases hu
  | some start =>
      rw [List.mem_singleton.mp hu]
      cases h <;> first | rfl | exact absurd (by simp [Histogram.perSuccess]) hh

theorem fair_ignore : Action.ignore.Fair :=
  fair_of_idle (by simp) True

theorem fair_ifCounted {e : Event} {rule : Int → Action} (h : ∀ count, (rule count).Fair) :
    (ifCounted e rule).Fair := by
  unfold ifCounted
  split
  · exact fair_ignore
  · split
    · exact fair_ignore
    · exact h _

theorem idle_failureUpdates (e : Event) : ∀ u ∈ failureUpdates e, isIdle u = true := by
  unfold failureUpdates
  refine List.forall_mem_append.mpr ⟨?_, ?_⟩
  · split
    · simp
    · exact idle_singleton rfl
  · split
    · simp
    · exact idle_singleton rfl

theorem idle_successTransfer (e : Event) (p : Progress) :
    ∀ u ∈ (successTransfer e p).1, isIdle u = true := by
  unfold successTransfer
  cases e.received? with
  | none => simp
  | some bytes =>
      cases p.firstByte with
      | none => exact idle_singleton rfl
      | some first =>
          dsimp only
          split
          · split
            · exact idle_singleton rfl
            · exact List.forall_mem_cons.mpr ⟨rfl, idle_singleton rfl⟩
          · exact idle_singleton rfl

/-- A success is counted once, and once for its transport. -/
theorem counts_successHead (e : Event) (p : Progress) :
    outcomes (successHead e p) = 1 ∧ adds .success (successHead e p) = 1 ∧
      adds .bitswapSuccess (successHead e p) + adds .graphsyncSuccess (successHead e p) = 1 ∧
      ∀ h ∈ Histogram.perSuccess, samples h (successHead e p) = 0 := by
  have hdeal : Histogram.dealDuration ∉ Histogram.perSuccess := by decide
  have hidle := counts_of_idle
    (idle_sinceStart hdeal e.time (protocol (Transport.ofProvider e.provider).name) p.start)
  obtain ⟨houtcomes, hsuccess, hbitswap, hgraphsync, hsamples⟩ := hidle
  unfold successHead
  simp only [outcomes_append, adds_append, samples_append, houtcomes, hsuccess, hbitswap,
    hgraphsync]
  split
  · refine ⟨rfl, rfl, rfl, fun h hh => ?_⟩
    rw [hsamples h hh]
    rfl
  · refine ⟨rfl, rfl, rfl, fun h hh => ?_⟩
    rw [hsamples h hh]
    rfl

theorem adds_success_successUpdates (e : Event) (p : Progress) :
    adds .success (successUpdates e p).1 = 1 := by
  obtain ⟨-, hsuccess, -⟩ := counts_successHead e p
  obtain ⟨-, hsuccess', -⟩ := counts_of_idle (idle_successTransfer e p)
  unfold successUpdates
  rcases htransfer : successTransfer e p with ⟨transfer, fault⟩
  rw [htransfer] at hsuccess'
  cases fault with
  | some fault => simp only [adds_append, hsuccess, hsuccess']
  | none =>
      have hlast : adds .success (perRequest p.candidates p.filtered p.failures) = 0 := rfl
      simp only [adds_append, hsuccess, hsuccess', hlast]

theorem fair_successUpdates (e : Event) (p : Progress) :
    Fair (successUpdates e p).1 1 ((successUpdates e p).2 = none) ∧
      adds .expired (successUpdates e p).1 = 0 := by
  obtain ⟨houtcomes, hsuccess, hsplit, hsamples⟩ := counts_successHead e p
  obtain ⟨houtcomes', hsuccess', hbitswap', hgraphsync', hsamples'⟩ :=
    counts_of_idle (idle_successTransfer e p)
  have hexpired : adds .expired (successHead e p) = 0 := by
    have := outcomes_eq (successHead e p)
    omega
  have hexpired' : adds .expired (successTransfer e p).1 = 0 := by
    have := outcomes_eq (successTransfer e p).1
    omega
  unfold successUpdates
  rcases htransfer : successTransfer e p with ⟨transfer, fault⟩
  rw [htransfer] at houtcomes' hsuccess' hbitswap' hgraphsync' hsamples' hexpired'
  cases fault with
  | some fault =>
      refine ⟨⟨?_, ?_, fun hno => by cases hno⟩, ?_⟩
      · simp only [outcomes_append, houtcomes, houtcomes']
      · simp only [adds_append, hsuccess, hsuccess', hbitswap', hgraphsync', hsplit, Nat.add_zero]
      · simp only [adds_append, hexpired, hexpired']
  | none =>
      have hlast : ∀ h ∈ Histogram.perSuccess,
          samples h (perRequest p.candidates p.filtered p.failures) = 1 := by
        intro h hh
        simp only [Histogram.perSuccess, List.mem_cons, List.not_mem_nil, or_false] at hh
        rcases hh with rfl | rfl | rfl <;> rfl
      have hcounts : ∀ c, adds c (perRequest p.candidates p.filtered p.failures) = 0 :=
        fun _ => rfl
      have hends : outcomes (perRequest p.candidates p.filtered p.failures) = 0 := rfl
      refine ⟨⟨?_, ?_, fun _ h hh => ?_⟩, ?_⟩
      · simp only [outcomes_append, houtcomes, houtcomes', hends]
      · simp only [adds_append, hsuccess, hsuccess', hbitswap', hgraphsync', hsplit, hcounts,
          Nat.add_zero]
      · simp only [adds_append, samples_append, hsuccess, hsuccess', hcounts, hsamples h hh,
          hsamples' h hh, hlast h hh]
      · simp only [adds_append, hexpired, hexpired', hcounts]

/-- Every rule gives the count of retrievals its due. -/
theorem fair_rule (e : Event) : (rule e).Fair := by
  have hquery : ∀ c, (∀ attributes, isIdle (.count c attributes) = true) → (queried c e).Fair :=
    fun c hc => fair_of_idle (idle_singleton (hc _)) True
  unfold rule
  split
  · exact fair_ifFirst fun _ => idle_singleton rfl
  · refine fair_ifCounted fun count => fair_ifFirst fun start => ?_
    exact List.forall_mem_cons.mpr ⟨rfl, idle_sinceStart (by decide) _ _ _⟩
  · exact fair_ifCounted fun count => fair_ifFirst fun _ => idle_singleton rfl
  · exact fun p => ⟨⟨rfl, rfl, fun _ h hh => rfl⟩, rfl⟩
  · exact hquery _ fun _ => rfl
  · exact hquery _ fun _ => rfl
  · exact hquery _ fun _ => rfl
  · unfold retrievalStarted
    split
    · exact fair_ifFirst fun _ => idle_singleton rfl
    · exact fair_ifFirst fun _ => idle_singleton rfl
  · exact fun answer start => fair_of_idle (idle_failureUpdates e) True
  · refine fair_ifFirst fun start => ?_
    exact List.forall_mem_cons.mpr ⟨rfl, idle_sinceStart (by decide) _ _ _⟩
  · exact fair_successUpdates e
  · exact fair_ignore

end Metering

end RetrievalTelemetry
