/-
The stages of a retrieval are counted once.

Six counters follow a retrieval: it is asked for, candidates are found, some pass the filter, it is
tried over either transport, its first byte arrives.  What keeps a stage from being counted twice
differs from one to the next: a time that is set or not, a flag, or a sum that is zero or not.  The
sums tell the first count from later ones only because counts that are not positive never reach
them; `Progress.Summed` is the invariant.

Whether a stage was reached is one bit of the progress, and `mark_reached` says of every mark what
it does to the bits and what it answers.  From there on only the bits matter: an event sets those
that it reaches and tells the ones that were not set.  So the order of the events of a retrieval
makes no difference, nor how often each of them comes.
-/
import RetrievalTelemetry.Proofs.Correlator.Agreement
import RetrievalTelemetry.Proofs.Correlator.Calls
import RetrievalTelemetry.Proofs.Metering.Account

namespace RetrievalTelemetry

/-! ### Stages -/

/-- The counters of the stages of a retrieval. -/
def Counter.funnel : List Counter :=
  [requests, candidates, candidatesFiltered, bitswapAttempts, graphsyncAttempts, firstByte]

namespace Event

/-- The counter of the stage that an event shows its retrieval to have reached. -/
def stage? (e : Event) : Option Counter :=
  match e.phase, e.code with
  | .indexer, .started => some .requests
  | .indexer, .candidatesFound =>
    if e.candidates?.any (0 < ·) then some .candidates else none
  | .indexer, .candidatesFiltered =>
    if e.candidates?.any (0 < ·) then some .candidatesFiltered else none
  | .retrieval, .started =>
    some (if Transport.isAgnostic e.provider then .bitswapAttempts else .graphsyncAttempts)
  | .retrieval, .firstByte => some .firstByte
  | _, _ => none

/-- Whether some event reaches the stage of a counter. -/
def reach (c : Counter) (events : List Event) : Bool := events.any fun e => e.stage? = some c

/-- Whether an event ends its retrieval. -/
def ends (e : Event) : Bool := e.isOf .indexer .failure || e.isOf .retrieval .success

/-- The events of a retrieval without an entry that are handled.  If the lifetime is too large for a
double, the first event that makes an entry is stopped. -/
def handled (timeout : Number) (events : List Event) : List Event :=
  if timeout.toDouble? = none then events.eraseP begins else events

@[simp] theorem reach_nil (c : Counter) : reach c [] = false := rfl

@[simp] theorem reach_cons (c : Counter) (e : Event) (events : List Event) :
    reach c (e :: events) = (decide (e.stage? = some c) || reach c events) := rfl

/-- What reaches a stage makes its retrieval live. -/
theorem stage?_of_not_begins {e : Event} (h : e.begins = false) : e.stage? = none := by
  unfold begins at h
  unfold stage?
  cases hphase : e.phase <;> cases hcode : e.code <;> simp_all

/-- It does not matter how often the events come, nor in which order. -/
theorem reach_congr {c : Counter} {as bs : List Event} (h : ∀ e, e ∈ as ↔ e ∈ bs) :
    reach c as = reach c bs := by
  unfold reach
  rw [Bool.eq_iff_iff, List.any_eq_true, List.any_eq_true]
  exact exists_congr fun e => and_congr_left fun _ => h e

/-- An event that was handled is no news when it comes again. -/
theorem mem_handled_again {timeout : Number} {events : List Event} {e : Event}
    (he : e ∈ handled timeout events) (e' : Event) :
    e' ∈ handled timeout (events ++ [e]) ↔ e' ∈ handled timeout events := by
  unfold handled at he ⊢
  by_cases htimeout : timeout.toDouble? = none
  · rw [if_pos htimeout] at he ⊢
    rw [if_pos htimeout]
    by_cases hbegun : ∃ a ∈ events, a.begins = true
    · obtain ⟨a, ha, hbegins⟩ := hbegun
      rw [List.eraseP_append_left hbegins _ ha]
      simp only [List.mem_append, List.mem_singleton]
      exact or_iff_left_of_imp fun h => h ▸ he
    · have hnone : ∀ a ∈ events, ¬a.begins = true := fun a ha hbegins => hbegun ⟨a, ha, hbegins⟩
      have he : e ∈ events := List.mem_of_mem_eraseP he
      rw [List.eraseP_append_right _ hnone, List.eraseP_of_forall_not hnone,
        List.eraseP_cons_of_neg (hnone e he)]
      simp only [List.mem_append, List.mem_singleton, List.eraseP_nil]
      exact or_iff_left_of_imp fun h => h ▸ he
  · rw [if_neg htimeout] at he ⊢
    rw [if_neg htimeout]
    simp only [List.mem_append, List.mem_singleton]
    exact or_iff_left_of_imp fun h => h ▸ he

end Event

open Update (increments)

namespace Update

@[simp] theorem increments_nil (c : Counter) : increments c [] = [] := rfl

@[simp] theorem increments_count (c c' : Counter) (attributes : Attributes) (rest : List Update) :
    increments c (.count c' attributes :: rest)
      = if c' = c then 1 :: increments c rest else increments c rest := by
  unfold increments added count
  by_cases h : c' = c
  · simp [h]
  · simp [h]

@[simp] theorem increments_sinceStart (c : Counter) (h : Histogram) (time : Timestamp)
    (attributes : Attributes) (start : Option Timestamp) :
    increments c (Metering.sinceStart h time attributes start) = [] := by
  cases start <;> rfl

end Update

/-! ### Marks -/

/-- The stage that a mark is for. -/
def Mark.stage? : Mark → Option Counter
  | start _ => some .requests
  | candidates _ _ => some .candidates
  | filtered _ => some .candidatesFiltered
  | bitswap => some .bitswapAttempts
  | graphsync => some .graphsyncAttempts
  | firstByte _ => some .firstByte
  | failure => none

/-- A mark that counts candidates counts some. -/
def Mark.Counts : Mark → Prop
  | candidates _ count => 0 < count
  | filtered count => 0 < count
  | _ => True

namespace Progress

/-- Whether the stage of a counter was reached. -/
def reached (p : Progress) : Counter → Bool
  | .requests => p.start.isSome
  | .candidates => p.candidates != 0
  | .candidatesFiltered => p.filtered != 0
  | .bitswapAttempts => p.bitswap
  | .graphsyncAttempts => p.graphsync
  | .firstByte => p.firstByte.isSome
  | _ => false

/-- The counts of candidates are sums of positive numbers, so they are zero only if nothing was
added to them. -/
structure Summed (p : Progress) : Prop where
  candidates : 0 ≤ p.candidates
  filtered : 0 ≤ p.filtered

theorem summed_empty : Summed empty := ⟨Int.le_refl 0, Int.le_refl 0⟩

theorem reached_empty (c : Counter) : empty.reached c = false := by
  cases c <;> rfl

/-- A mark reaches its stage and answers whether that is new. -/
theorem mark_reached {p : Progress} (hp : p.Summed) {m : Mark} (hm : m.Counts) :
    (p.mark m).2.Summed ∧
      (∀ c, (p.mark m).2.reached c = (p.reached c || decide (m.stage? = some c))) ∧
      ∀ c ∈ m.stage?, (p.mark m).1 = .first !p.reached c := by
  obtain ⟨hcandidates, hfiltered⟩ := hp
  cases m with
  | start time =>
      rw [mark_start]
      refine ⟨⟨hcandidates, hfiltered⟩, fun c => ?_, ?_⟩
      · cases c <;> simp [reached, Mark.stage?]
      · rintro c ⟨⟩
        unfold mark
        cases hstart : p.start <;> simp [reached, hstart]
  | candidates time count =>
      have hpositive : 0 < count := hm
      rw [mark_candidates]
      refine ⟨⟨by show 0 ≤ p.candidates + count; omega, hfiltered⟩, fun c => ?_, ?_⟩
      · have hsum : p.candidates + count ≠ 0 := by omega
        cases c <;> simp [reached, Mark.stage?, hsum]
      · rintro c ⟨⟩
        unfold mark
        by_cases hzero : p.candidates = 0 <;> simp [reached, hzero]
  | filtered count =>
      have hpositive : 0 < count := hm
      refine ⟨⟨hcandidates, by show 0 ≤ p.filtered + count; omega⟩, fun c => ?_, ?_⟩
      · have hsum : p.filtered + count ≠ 0 := by omega
        cases c <;> simp [reached, mark, Mark.stage?, hsum]
      · rintro c ⟨⟩
        by_cases hzero : p.filtered = 0 <;> simp [reached, mark, hzero]
  | bitswap =>
      refine ⟨⟨hcandidates, hfiltered⟩, fun c => ?_, ?_⟩
      · cases c <;> simp [reached, mark, Mark.stage?]
      · rintro c ⟨⟩
        rfl
  | graphsync =>
      refine ⟨⟨hcandidates, hfiltered⟩, fun c => ?_, ?_⟩
      · cases c <;> simp [reached, mark, Mark.stage?]
      · rintro c ⟨⟩
        rfl
  | firstByte time =>
      rw [mark_firstByte]
      refine ⟨⟨hcandidates, hfiltered⟩, fun c => ?_, ?_⟩
      · cases c <;> simp [reached, Mark.stage?]
      · rintro c ⟨⟩
        unfold mark
        cases hfirst : p.firstByte <;> simp [reached, hfirst]
  | failure =>
      refine ⟨⟨hcandidates, hfiltered⟩, fun c => ?_, ?_⟩
      · cases c <;> simp [reached, mark, Mark.stage?]
      · rintro c ⟨⟩

end Progress

/-! ### Rules -/

/-- What the action of an event that does not end its retrieval has to do with the stages. -/
def Event.Drives (e : Event) : Action → Prop
  | .mark m told =>
    e.begins = true ∧ m.Counts ∧ e.stage? = m.stage? ∧ ∀ c ∈ Counter.funnel, ∀ answer start,
      increments c (told answer start)
        = if m.stage? = some c ∧ answer = .first true then [1] else []
  | .tell updates =>
    e.begins = false ∧ e.stage? = none ∧ ∀ c ∈ Counter.funnel, increments c updates = []
  | .close _ => False

namespace Metering

variable {e : Event}

/-- What is told of the first mark of a kind, if it adds one to the counter of a stage. -/
theorem increments_ifFirst {m : Mark} {updates : Option Timestamp → List Update} {c : Counter}
    (h : ∀ start, increments c (updates start) = if m.stage? = some c then [1] else [])
    (answer : MarkAnswer) (start : Option Timestamp) :
    increments c (ifFirst updates answer start)
      = if m.stage? = some c ∧ answer = .first true then [1] else [] := by
  unfold ifFirst
  split
  · simp [h]
  · rename_i hlater
    have hlater : answer ≠ .first true := hlater
    simp [hlater]

/-- An event of no stage that does nothing. -/
theorem drives_ignore (hbegins : e.begins = false) (hstage : e.stage? = none) :
    e.Drives .ignore :=
  ⟨hbegins, hstage, fun c _ => Update.increments_nil c⟩

/-- A count of candidates reaches its stage if it is positive. -/
theorem drives_ifCounted {mark : Int → Mark} {updates : Option Timestamp → List Update}
    {stage : Counter} (hmark : ∀ count, 0 < count → (mark count).Counts)
    (hown : ∀ count, (mark count).stage? = some stage)
    (hbegins : e.begins = e.candidates?.any (0 < ·))
    (hstage : e.stage? = if e.candidates?.any (0 < ·) then some stage else none)
    (htold : ∀ c start, increments c (updates start) = if stage = c then [1] else []) :
    e.Drives (ifCounted e fun count => .mark (mark count) (ifFirst updates)) := by
  unfold ifCounted
  cases hcount : e.candidates? with
  | none =>
      rw [hcount] at hbegins hstage
      exact drives_ignore hbegins hstage
  | some count =>
      rw [hcount] at hbegins hstage
      by_cases hpositive : 0 < count
      · have hle : ¬count ≤ 0 := by omega
        simp only [if_neg hle]
        refine ⟨by simpa [hpositive] using hbegins, hmark count hpositive, ?_,
          fun c _ => increments_ifFirst fun start => ?_⟩
        · rw [hown]
          simpa [hpositive] using hstage
        · rw [htold, hown]
          simp
      · have hle : count ≤ 0 := by omega
        simp only [if_pos hle]
        exact drives_ignore (by simpa [hpositive] using hbegins)
          (by simpa [hpositive] using hstage)

/-- A failed attempt is of no stage. -/
theorem increments_failureUpdates (e : Event) {c : Counter} (hc : c ∈ Counter.funnel) :
    increments c (failureUpdates e) = [] := by
  have hgraphsync : Counter.graphsyncFailures ≠ c := by
    rintro rfl
    revert hc
    decide
  have herror : ∀ category, Counter.error category ≠ c := by
    rintro category rfl
    simp [Counter.funnel] at hc
  unfold failureUpdates
  rw [Update.increments_append]
  cases e.errorText? <;> split <;> simp [hgraphsync, herror]

/-- The rule of every event that does not end its retrieval. -/
theorem drives_rule (hends : e.ends = false) : e.Drives (rule e) := by
  have hquery : ∀ c ∈ Counter.funnel,
      .queryAsked ≠ c ∧ .queryAskedFiltered ≠ c ∧ .queryFailures ≠ c := by decide
  unfold Event.ends Event.isOf at hends
  unfold rule
  cases hphase : e.phase with
  | indexer =>
      cases hcode : e.code with
      | started =>
          refine ⟨?_, trivial, ?_, fun c _ => increments_ifFirst fun start => ?_⟩
          · simp [Event.begins, hphase, hcode]
          · simp [Event.stage?, hphase, hcode, Mark.stage?]
          · simp [Mark.stage?]
      | candidatesFound =>
          refine drives_ifCounted (fun _ h => h) (fun _ => rfl) ?_ ?_ fun c start => ?_
          · simp [Event.begins, hphase, hcode]
          · simp [Event.stage?, hphase, hcode]
          · simp
      | candidatesFiltered =>
          refine drives_ifCounted (fun _ h => h) (fun _ => rfl) ?_ ?_ fun c start => ?_
          · simp [Event.begins, hphase, hcode]
          · simp [Event.stage?, hphase, hcode]
          · simp
      | failure => simp [hphase, hcode] at hends
      | _ =>
          refine drives_ignore ?_ ?_
          · simp [Event.begins, hphase, hcode]
          · simp [Event.stage?, hphase, hcode]
  | query =>
      have hbegins : e.begins = false := by simp [Event.begins, hphase]
      have hstage : e.stage? = none := by simp [Event.stage?, hphase]
      cases e.code with
      | queryAsked => exact ⟨hbegins, hstage, fun c hc => by simp [(hquery c hc).1]⟩
      | queryAskedFiltered => exact ⟨hbegins, hstage, fun c hc => by simp [(hquery c hc).2.1]⟩
      | failure => exact ⟨hbegins, hstage, fun c hc => by simp [(hquery c hc).2.2]⟩
      | _ => exact drives_ignore hbegins hstage
  | retrieval =>
      cases hcode : e.code with
      | started =>
          have hbegins : e.begins = true := by simp [Event.begins, hphase, hcode]
          show e.Drives (retrievalStarted e)
          unfold retrievalStarted
          split
          · rename_i hagnostic
            refine ⟨hbegins, trivial, ?_, fun c _ => increments_ifFirst fun start => ?_⟩
            · simp [Event.stage?, hphase, hcode, Mark.stage?, hagnostic]
            · simp [Mark.stage?]
          · rename_i hagnostic
            refine ⟨hbegins, trivial, ?_, fun c _ => increments_ifFirst fun start => ?_⟩
            · simp [Event.stage?, hphase, hcode, Mark.stage?, hagnostic]
            · simp [Mark.stage?]
      | failure =>
          refine ⟨?_, trivial, ?_, fun c hc answer start => ?_⟩
          · simp [Event.begins, hphase, hcode]
          · simp [Event.stage?, hphase, hcode, Mark.stage?]
          · rw [increments_failureUpdates e hc]
            simp [Mark.stage?]
      | firstByte =>
          refine ⟨?_, trivial, ?_, fun c _ => increments_ifFirst fun start => ?_⟩
          · simp [Event.begins, hphase, hcode]
          · simp [Event.stage?, hphase, hcode, Mark.stage?]
          · simp [Mark.stage?]
      | success => simp [hphase, hcode] at hends
      | _ =>
          refine drives_ignore ?_ ?_
          · simp [Event.begins, hphase, hcode]
          · simp [Event.stage?, hphase, hcode]

end Metering

/-! ### One retrieval -/

namespace Track

/-- Whether a retrieval has reached the stage of a counter. -/
def reached (x : Track) (c : Counter) : Bool := x.any fun known => known.2.reached c

def Summed (x : Track) : Prop := ∀ known ∈ x, known.2.Summed

end Track

namespace Correlator

open Event (begins stage? ends reach handled ofRetrieval)

variable {e : Event} {timeout : Number} {x : Track} {c : Counter}

/-- An event tells the stage that it reaches if it is new, unless it is stopped. -/
theorem increments_track (hends : e.ends = false) (hx : x.Summed)
    (hgoes : timeout.toDouble? ≠ none ∨ x.isSome ∨ e.begins = false) (now : Binary64)
    (hc : c ∈ Counter.funnel) :
    increments c ((Metering.rule e).track timeout now x).1
        = (if e.stage? = some c ∧ x.reached c = false then [1] else []) ∧
      ((Metering.rule e).track timeout now x).2.reached c
        = (x.reached c || decide (e.stage? = some c)) ∧
      ((Metering.rule e).track timeout now x).2.Summed ∧
      ((Metering.rule e).track timeout now x).2.isSome = (x.isSome || e.begins) := by
  have hdrives := Metering.drives_rule hends
  cases hrule : Metering.rule e with
  | close told =>
      rw [hrule] at hdrives
      exact hdrives.elim
  | tell updates =>
      rw [hrule] at hdrives
      obtain ⟨hbegins, hstage, htold⟩ := hdrives
      simp [Action.track, hbegins, hstage, htold c hc, hx]
  | mark m told =>
      rw [hrule] at hdrives
      obtain ⟨hbegins, hm, hstage, htold⟩ := hdrives
      have hmark : ∀ {p : Progress}, p.Summed →
          increments c (told (p.mark m).1 (p.mark m).2.start)
              = (if e.stage? = some c ∧ p.reached c = false then [1] else []) ∧
            (p.mark m).2.reached c = (p.reached c || decide (e.stage? = some c)) ∧
            (p.mark m).2.Summed := by
        intro p hp
        obtain ⟨hsummed, hreached, hanswer⟩ := Progress.mark_reached hp hm
        refine ⟨?_, by rw [hstage, hreached], hsummed⟩
        rw [htold c hc, hstage]
        by_cases hown : m.stage? = some c
        · rw [hanswer c hown]
          simp [hown]
        · simp [hown]
      unfold Action.track
      cases x with
      | some known =>
          obtain ⟨htold, hreached, hsummed⟩ := hmark (hx known rfl)
          refine ⟨htold, hreached, ?_, rfl⟩
          rintro known' ⟨⟩
          exact hsummed
      | none =>
          have hlifetime : timeout.toDouble? ≠ none := by simpa [hbegins] using hgoes
          obtain ⟨lifetime, hlifetime⟩ := Option.ne_none_iff_exists'.mp hlifetime
          obtain ⟨htold, hreached, hsummed⟩ := hmark Progress.summed_empty
          rw [Progress.reached_empty] at htold hreached
          simp only [hlifetime]
          refine ⟨htold, hreached, ?_, by simp [hbegins]⟩
          rintro known' ⟨⟩
          exact hsummed

/-- What is told of a stage on the way: nothing if it was reached before, and otherwise once if one
of the events reaches it. -/
theorem increments_trackFed {steps : List (Binary64 × Event)}
    (hends : ∀ e ∈ steps.map (·.2), e.ends = false) (hx : x.Summed)
    (hgoes : timeout.toDouble? ≠ none ∨ x.isSome) (hc : c ∈ Counter.funnel) :
    increments c (trackFed timeout x steps)
      = if !x.reached c && reach c (steps.map (·.2)) then [1] else [] := by
  induction steps generalizing x with
  | nil => simp [trackFed]
  | cons s rest ih =>
      obtain ⟨now, e⟩ := s
      obtain ⟨he, hrest⟩ := List.forall_mem_cons.mp hends
      obtain ⟨htold, hreached, hsummed, hlive⟩ :=
        increments_track he hx (hgoes.imp_right Or.inl) now hc
      have hgoes' : timeout.toDouble? ≠ none ∨
          ((Metering.rule e).track timeout now x).2.isSome = true := by
        refine hgoes.imp_right fun hsome => ?_
        rw [hlive, hsome, Bool.true_or]
      rw [trackFed, Update.increments_append, htold, ih hrest hsummed hgoes', hreached,
        List.map_cons, Event.reach_cons]
      by_cases hown : e.stage? = some c <;> cases x.reached c <;> simp [hown]

/-- Without a deadline the event that makes an entry is stopped. -/
theorem track_stopped (hends : e.ends = false) (hbegins : e.begins = true)
    (htimeout : timeout.toDouble? = none) (now : Binary64) :
    (Metering.rule e).track timeout now none = ([], some (.nan, Progress.empty)) := by
  have hdrives := Metering.drives_rule hends
  cases hrule : Metering.rule e with
  | mark m told => simp [Action.track, htimeout]
  | close told =>
      rw [hrule] at hdrives
      exact hdrives.elim
  | tell updates =>
      rw [hrule] at hdrives
      exact absurd hdrives.1 (by simp [hbegins])

/-- The same from the beginning, where an event may be stopped. -/
theorem increments_trackFed_none {steps : List (Binary64 × Event)}
    (hends : ∀ e ∈ steps.map (·.2), e.ends = false) (hc : c ∈ Counter.funnel) :
    increments c (trackFed timeout none steps)
      = if reach c (handled timeout (steps.map (·.2))) then [1] else [] := by
  have hnone : Track.Summed none := fun _ h => nomatch h
  unfold handled
  by_cases htimeout : timeout.toDouble? = none
  · rw [if_pos htimeout]
    induction steps with
    | nil => simp [trackFed]
    | cons s rest ih =>
        obtain ⟨now, e⟩ := s
        obtain ⟨he, hrest⟩ := List.forall_mem_cons.mp hends
        have he : e.ends = false := he
        rw [trackFed, Update.increments_append, List.map_cons]
        cases hbegins : e.begins with
        | true =>
            have hentry : Track.Summed (some (.nan, Progress.empty)) := by
              rintro known ⟨⟩
              exact Progress.summed_empty
            rw [track_stopped he hbegins htimeout,
              increments_trackFed hrest hentry (Or.inr rfl) hc, List.eraseP_cons_of_pos hbegins]
            simp [Track.reached, Progress.reached_empty]
        | false =>
            have hgoes : timeout.toDouble? ≠ none ∨ Option.isSome (none : Track) ∨
                e.begins = false := Or.inr (Or.inr hbegins)
            obtain ⟨htold, -, -, hlive⟩ := increments_track he hnone hgoes now hc
            have hstays : ((Metering.rule e).track timeout now none).2 = none := by
              rw [← Option.isNone_iff_eq_none, ← Option.not_isSome, hlive, hbegins]
              rfl
            have hnot : ¬e.begins = true := by simp [hbegins]
            rw [htold, hstays, ih hrest, List.eraseP_cons_of_neg hnot, Event.reach_cons]
            simp [Event.stage?_of_not_begins hbegins]
  · rw [if_neg htimeout, increments_trackFed hends hnone (Or.inl htimeout) hc]
    simp [Track.reached]

theorem track_eq_none {t : LiveTable} (h : LiveTable.Sound t) {id : Uuid}
    (habsent : t.live? id = none) : t.track id = none := by
  unfold LiveTable.track
  rw [PlainTable.track_eq_none_iff, h.record?_plain, habsent]
  rfl

/-- Each stage of a retrieval that is not live is counted once if an event that is handled shows that
it was reached, and not at all otherwise, while events of any other retrievals come in between.
So only the set of the events counts, and an event that comes again adds nothing. -/
theorem funnel_counted_once {timeout : Number} {capacity : Int} {pool : Pool} {table : LiveTable}
    (hpool : Pool.ofCapacity capacity = .ok pool)
    (htable : LiveTable.ofTimeout timeout pool = .ok table) (resolver : Option Resolver)
    (meter : Option Meter) (calls : List Call) {id : Uuid} :
    let c : Correlator :=
      afterCalls { table := table, resolver := resolver, meter := meter } calls
    let own : List (Binary64 × Event) → List Event := fun steps => ofRetrieval id (steps.map (·.2))
    let told : List (Binary64 × Event) → List Update := fun steps =>
      creditedTo id (c.credits (fed steps))
    c.table.live? id = none →
    ∀ stage ∈ Counter.funnel, ∀ steps, (∀ e ∈ own steps, e.ends = false) →
      increments stage (told steps)
          = (if reach stage (handled timeout (own steps)) then [1] else []) ∧
      (∀ steps', (∀ e ∈ own steps', e.ends = false) →
        (∀ e, e ∈ handled timeout (own steps') ↔ e ∈ handled timeout (own steps)) →
        increments stage (told steps') = increments stage (told steps)) ∧
      ∀ e ∈ handled timeout (own steps), ∀ now,
        increments stage (told (steps ++ [(now, e)])) = increments stage (told steps) := by
  intro c own told habsent stage hstage
  have hfresh := LiveTable.sound_of_ofTimeout hpool htable
  obtain rfl := LiveTable.eq_of_ofTimeout htable
  obtain ⟨hsound, htimeout⟩ := sound_afterCalls calls
    (c := { table := { timeout := timeout, pool := pool }, resolver := resolver, meter := meter })
    hfresh
  have hown : ∀ steps : List (Binary64 × Event),
      (steps.filter fun s => s.2.retrieval = id).map (·.2) = own steps := by
    intro steps
    show _ = (steps.map (·.2)).filter _
    rw [List.filter_map]
    rfl
  have hcounted : ∀ steps, (∀ e ∈ own steps, e.ends = false) →
      increments stage (told steps)
        = if reach stage (handled timeout (own steps)) then [1] else [] := by
    intro steps hends
    rw [← hown] at hends ⊢
    show increments stage (creditedTo id (c.credits (fed steps))) = _
    rw [creditedTo_fed id steps hsound, track_eq_none hsound habsent, htimeout]
    exact increments_trackFed_none hends hstage
  intro steps hends
  refine ⟨hcounted steps hends, fun steps' hends' hsame => ?_, fun e he now => ?_⟩
  · rw [hcounted steps hends, hcounted steps' hends', Event.reach_congr hsame]
  · have hmem : e ∈ own steps := by
      unfold handled at he
      split at he
      · exact List.mem_of_mem_eraseP he
      · exact he
    have hagain : own (steps ++ [(now, e)]) = own steps ++ [e] := by
      have hid : decide (e.retrieval = id) = true := (List.mem_filter.mp hmem).2
      show ((steps ++ [(now, e)]).map (·.2)).filter _ = (steps.map (·.2)).filter _ ++ [e]
      rw [List.map_append, List.filter_append, List.map_singleton, List.filter_singleton, hid]
      rfl
    have hends' : ∀ e' ∈ own (steps ++ [(now, e)]), e'.ends = false := by
      rw [hagain]
      intro e' he'
      rcases List.mem_append.mp he' with he' | he'
      · exact hends e' he'
      · rw [List.mem_singleton.mp he']
        exact hends e hmem
    rw [hcounted _ hends', hcounted steps hends, hagain,
      Event.reach_congr (Event.mem_handled_again he)]

/-- A retrieval that ended once is heard of again: its first byte, and three times that it started.
Another retrieval succeeds in between. -/
theorem funnel_counted_once_second_life :
    let table : LiveTable := { timeout := .int 60, pool := { capacity := 1 } }
    let now : Binary64 := .zero false
    let started : Event := .bare ⟨1⟩ .indexer .started
    let firstByte : Event := .bare ⟨1⟩ .retrieval .firstByte
    let calls : List Call :=
      [.step (.event now started), .step (.event now (.bare ⟨1⟩ .retrieval .success)),
       .step (.event now (.bare ⟨2⟩ .indexer .started))]
    let c : Correlator := afterCalls { table := table } calls
    let steps : List (Binary64 × Event) :=
      [(now, firstByte), (now, started), (now, .bare ⟨2⟩ .retrieval .success), (now, started)]
    let told : List (Binary64 × Event) → List Update := fun steps =>
      creditedTo ⟨1⟩ (c.credits (fed steps))
    increments .requests (told steps) = [1] ∧
      increments .bitswapAttempts (told steps) = [] ∧
      increments .requests (told [(now, started), (now, firstByte)])
        = increments .requests (told steps) ∧
      increments .requests (told (steps ++ [(now, started)]))
        = increments .requests (told steps) := by
  intro table now started firstByte calls c steps told
  have hpool : Pool.ofCapacity 1 = .ok { capacity := 1 } := rfl
  have htable : LiveTable.ofTimeout (.int 60) { capacity := 1 } = .ok table := rfl
  have habsent : c.table.live? ⟨1⟩ = none := by decide +kernel
  have hcounted := funnel_counted_once hpool htable none none calls habsent
  obtain ⟨hrequests, hset, hagain⟩ := hcounted .requests (by decide) steps (by decide)
  obtain ⟨hbitswap, -⟩ := hcounted .bitswapAttempts (by decide) steps (by decide)
  have hhandled : ∀ events, handled (.int 60) events = events := fun _ => if_neg (by decide)
  refine ⟨hrequests.trans (if_pos (by decide)), hbitswap.trans (if_neg (by decide)),
    hset [(now, started), (now, firstByte)] (by decide) ?_, hagain started ?_ now⟩
  · intro e
    rw [hhandled, hhandled]
    show e ∈ [started, firstByte] ↔ e ∈ [firstByte, started, started]
    simp [or_comm]
  · rw [hhandled]
    show started ∈ [firstByte, started, started]
    simp

end Correlator

end RetrievalTelemetry
