/-
Every histogram is told numbers of one kind, and every counter grows by one at a time.

Spans of time are doubles and everything else is a whole number, in the rules for events as in those
for records.  So a meter that was never told anything else can only fail over the size of a number.
-/
import RetrievalTelemetry.Metering.Record
import RetrievalTelemetry.Proofs.Metering.Tally
import RetrievalTelemetry.Proofs.Metric.Limits

namespace RetrievalTelemetry

/-- All samples of some updates are of the kinds that their histograms are told. -/
def Update.AllSuit (updates : List Update) : Prop := ∀ u ∈ updates, u.Suits

namespace Update

@[simp] theorem allSuit_nil : AllSuit [] := by
  intro u h
  cases h

@[simp] theorem allSuit_cons {u : Update} {rest : List Update} :
    AllSuit (u :: rest) ↔ u.Suits ∧ AllSuit rest :=
  List.forall_mem_cons

@[simp] theorem allSuit_append {us vs : List Update} :
    AllSuit (us ++ vs) ↔ AllSuit us ∧ AllSuit vs :=
  List.forall_mem_append

@[simp] theorem suits_count (c : Counter) (attributes : Attributes) : (count c attributes).Suits :=
  rfl

/-- What is added to a counter is one, as often as it is added to. -/
theorem AllSuit.increments_eq {updates : List Update} (h : AllSuit updates) (c : Counter) :
    increments c updates = List.replicate (adds c updates) 1 := by
  refine List.eq_replicate_iff.mpr ⟨rfl, fun amount hamount => ?_⟩
  obtain ⟨addition, hadded, rfl⟩ := List.mem_map.mp hamount
  obtain ⟨u, hu, hobserved⟩ := List.mem_filterMap.mp hadded
  have hsuits := h u hu
  cases u with
  | record h value attributes => cases hobserved
  | add c' delta attributes =>
      obtain ⟨-, heq⟩ := Option.ite_none_right_eq_some.mp hobserved
      rw [← Option.some.inj heq]
      exact hsuits

theorem suits_seconds {h : Histogram} (hspan : h.isSpan = true) (span : Binary64)
    (attributes : Attributes) : (seconds h span attributes).Suits :=
  hspan

theorem suits_whole {h : Histogram} (hspan : h.isSpan = false) (n : Int)
    (attributes : Attributes) : (whole h n attributes).Suits :=
  fun hc => absurd hc (by simp [hspan])

end Update

/-- All that an action can tell is of the right kinds. -/
def Action.Suits : Action → Prop
  | .mark _ told => ∀ answer start, Update.AllSuit (told answer start)
  | .close told => ∀ p, Update.AllSuit (told p).1
  | .tell updates => Update.AllSuit updates

namespace Action

theorem allSuit_apply {a : Action} (ha : a.Suits) (now : Binary64) (t : LiveTable) (id : Uuid) :
    Update.AllSuit (a.apply now t id).updates := by
  unfold apply
  cases a with
  | mark m told =>
      dsimp only
      rcases t.enter now id with ⟨given, t'⟩
      cases given with
      | error error => exact Update.allSuit_nil
      | ok handle => exact ha _ _
  | close told =>
      dsimp only
      rcases t.finish id with ⟨progress?, t'⟩
      cases progress? with
      | none => exact Update.allSuit_nil
      | some progress => exact ha progress
  | tell updates => exact ha

end Action

namespace Metering

open Update

/-! ### Events -/

theorem suits_ifFirst {m : Mark} {updates : Option Timestamp → List Update}
    (h : ∀ start, AllSuit (updates start)) : Action.Suits (.mark m (ifFirst updates)) := by
  intro answer start
  unfold ifFirst
  split
  · exact h start
  · exact allSuit_nil

theorem allSuit_sinceStart {h : Histogram} (hspan : h.isSpan = true) (time : Timestamp)
    (attributes : Attributes) (start : Option Timestamp) :
    AllSuit (sinceStart h time attributes start) := by
  cases start with
  | none => exact allSuit_nil
  | some start => exact allSuit_cons.mpr ⟨suits_seconds hspan _ _, allSuit_nil⟩

theorem suits_ignore : Action.ignore.Suits := allSuit_nil

theorem suits_ifCounted {e : Event} {rule : Int → Action} (h : ∀ count, (rule count).Suits) :
    (ifCounted e rule).Suits := by
  unfold ifCounted
  split
  · exact suits_ignore
  · split
    · exact suits_ignore
    · exact h _

theorem allSuit_perRequest (candidates filtered failures : Int) :
    AllSuit (perRequest candidates filtered failures) := by
  simp [perRequest, suits_whole (h := .candidatesPerRequest) rfl,
    suits_whole (h := .filteredPerRequest) rfl, suits_whole (h := .failuresPerRequest) rfl]

theorem allSuit_failureUpdates (e : Event) : AllSuit (failureUpdates e) := by
  unfold failureUpdates
  rw [allSuit_append]
  constructor
  · split <;> simp
  · split <;> simp

theorem allSuit_successUpdates (e : Event) (p : Progress) : AllSuit (successUpdates e p).1 := by
  have hhead : AllSuit (successHead e p) := by
    unfold successHead
    rw [allSuit_append]
    refine ⟨?_, allSuit_sinceStart rfl _ _ _⟩
    split <;> simp
  have htransfer : AllSuit (successTransfer e p).1 := by
    have hsize : ∀ bytes attributes, (whole .dealSize bytes attributes).Suits :=
      suits_whole rfl
    have hrate : ∀ rate attributes, (whole .bandwidth rate attributes).Suits :=
      suits_whole rfl
    unfold successTransfer
    dsimp only
    split
    · exact allSuit_nil
    · split
      · simp [hsize]
      · split
        · split <;> simp [hsize, hrate]
        · simp [hsize]
  unfold successUpdates
  rcases htransfer' : successTransfer e p with ⟨transfer, fault⟩
  rw [htransfer'] at htransfer
  cases fault with
  | some fault => exact allSuit_append.mpr ⟨hhead, htransfer⟩
  | none =>
      exact allSuit_append.mpr
        ⟨allSuit_append.mpr ⟨hhead, htransfer⟩, allSuit_perRequest _ _ _⟩

theorem suits_rule (e : Event) : (rule e).Suits := by
  have hquery : ∀ c, (queried c e).Suits := fun c => by simp [queried, Action.Suits]
  unfold rule
  split
  · exact suits_ifFirst fun _ => by simp
  · refine suits_ifCounted fun count => suits_ifFirst fun start => ?_
    exact allSuit_cons.mpr ⟨rfl, allSuit_sinceStart rfl _ _ _⟩
  · exact suits_ifCounted fun count => suits_ifFirst fun _ => by simp
  · exact fun p => by simp
  · exact hquery _
  · exact hquery _
  · exact hquery _
  · unfold retrievalStarted
    split
    · exact suits_ifFirst fun _ => by simp
    · exact suits_ifFirst fun _ => by simp
  · exact fun answer start => allSuit_failureUpdates e
  · refine suits_ifFirst fun start => ?_
    exact allSuit_cons.mpr ⟨rfl, allSuit_sinceStart rfl _ _ _⟩
  · exact allSuit_successUpdates e
  · exact suits_ignore

theorem allSuit_expire (now : Binary64) (t : LiveTable) : AllSuit (expire now t).updates := by
  intro u hu
  obtain ⟨-, -, rfl⟩ := List.mem_map.mp hu
  rfl

/-! ### Records -/

theorem allSuit_attemptsUpdates (names : Names) (attempts : List (String × Attempt)) :
    ∀ seen, AllSuit (attemptsUpdates names seen attempts) := by
  have hattempt : ∀ tags label, AllSuit (attemptUpdates tags label) := by
    intro tags label
    unfold attemptUpdates
    split <;> simp
  have hfailure : ∀ tags label error, AllSuit (attemptFailureUpdates tags label error) := by
    intro tags label error
    unfold attemptFailureUpdates
    rw [allSuit_append]
    refine ⟨?_, by simp⟩
    split <;> simp
  induction attempts with
  | nil => exact fun _ => allSuit_nil
  | cons first rest ih =>
      intro seen
      obtain ⟨provider, attempt⟩ := first
      unfold attemptsUpdates
      dsimp only
      rw [allSuit_append, allSuit_append]
      refine ⟨⟨?_, ?_⟩, ih _⟩
      · split
        · exact allSuit_nil
        · exact hattempt _ _
      · split
        · exact allSuit_nil
        · exact hfailure _ _ _

theorem allSuit_endingUpdates (names : Names) (r : Record) : AllSuit (endingUpdates names r) := by
  have hsuccess : AllSuit (recordSuccessUpdates names r) := by
    unfold recordSuccessUpdates
    dsimp only
    rw [allSuit_append, allSuit_append]
    refine ⟨⟨?_, ?_⟩, allSuit_perRequest _ _ _⟩
    · rw [allSuit_cons]
      refine ⟨rfl, ?_⟩
      unfold successCounter
      split <;> simp
    · rw [allSuit_cons, allSuit_cons, allSuit_cons]
      exact ⟨suits_seconds rfl _ _, suits_whole rfl _ _, suits_whole rfl _ _, allSuit_nil⟩
  unfold endingUpdates
  split
  · exact hsuccess
  · split <;> simp

theorem allSuit_record (names : Names) (r : Record) : AllSuit (record names r) := by
  have hindexer : AllSuit (indexerUpdates r) := by
    unfold indexerUpdates
    rw [allSuit_append, allSuit_append]
    refine ⟨⟨?_, ?_⟩, ?_⟩
    · split
      · exact allSuit_cons.mpr ⟨suits_seconds rfl _ _, allSuit_nil⟩
      · exact allSuit_nil
    · split <;> simp
    · split <;> simp
  have hfirst : AllSuit (recordFirstByteUpdates r) := by
    unfold recordFirstByteUpdates
    split
    · exact allSuit_cons.mpr
        ⟨rfl, allSuit_cons.mpr ⟨suits_seconds rfl _ _, allSuit_nil⟩⟩
    · exact allSuit_nil
  unfold record
  rw [allSuit_append, allSuit_append, allSuit_append, allSuit_cons]
  exact ⟨⟨⟨⟨rfl, allSuit_attemptsUpdates names _ _⟩, hindexer⟩, hfirst⟩,
    allSuit_endingUpdates names r⟩

end Metering

end RetrievalTelemetry
