/-
The latencies that are sampled are those that a retrieval ends with.

Two histograms measure how long a retrieval took to get somewhere: to its first candidates, and to
its first byte.  A sample is taken in the middle of the retrieval, from the event that is the first
of its kind and a start time that is read afterwards.  Later the retrieval ends, or its time is up,
and what is known of it then has the two latencies as well.  In between may come the same events
again, events with an earlier time, and a start that was late.

`BearsOut` relates the samples so far to what is known of the retrieval: there is none, or one, and
that one is the latency.  It is kept because a latency that is there stays as it is, and because a
sample is taken only where there was none.  For candidates this needs that their sum is zero only
while nobody has reported any.
-/
import RetrievalTelemetry.Proofs.Correlator.Delivery
import RetrievalTelemetry.Proofs.Correlator.Funnel

namespace RetrievalTelemetry

open Update (sampled)

/-- The histograms of how long a retrieval took to get somewhere. -/
def Histogram.latencies : List Histogram := [timeToFirstCandidate, timeToFirstByte]

/-! ### What is known -/

namespace Progress

/-- When a retrieval got where a histogram measures the time to. -/
def milestone? (p : Progress) : Histogram → Option Timestamp
  | .timeToFirstCandidate => p.firstCandidate
  | .timeToFirstByte => p.firstByte
  | _ => none

/-- The latency that a histogram measures. -/
def latency? (p : Progress) : Histogram → Option Duration
  | .timeToFirstCandidate => p.timeToFirstCandidate
  | .timeToFirstByte => p.timeToFirstByte
  | _ => none

/-- The samples of a histogram are borne out: there is none, or one, which is the latency in
seconds. -/
def BearsOut (p : Progress) (h : Histogram) (samples : List (Number × Attributes)) : Prop :=
  samples = [] ∨ ∃ span attributes, p.latency? h = some span ∧
    samples = [(.double span.toSeconds, attributes)]

theorem BearsOut.length_le {p : Progress} {h : Histogram} {samples : List (Number × Attributes)}
    (hout : p.BearsOut h samples) : samples.length ≤ 1 := by
  rcases hout with rfl | ⟨span, attributes, -, rfl⟩
  · exact Nat.zero_le 1
  · exact Nat.le_refl 1

/-- The time of the first candidates is not set before there are any. -/
structure Dated (p : Progress) : Prop where
  summed : p.Summed
  unset : p.candidates = 0 → p.firstCandidate = none

theorem dated_empty : Dated empty := ⟨summed_empty, fun _ => rfl⟩

theorem Dated.mark {p : Progress} (hp : p.Dated) {m : Mark} (hm : m.Counts) :
    (p.mark m).2.Dated := by
  refine ⟨(mark_reached hp.summed hm).1, ?_⟩
  cases m with
  | start time =>
      rw [mark_start]
      exact hp.unset
  | candidates time count =>
      have hpositive : 0 < count := hm
      have hsum := hp.summed.candidates
      rw [mark_candidates]
      show p.candidates + count = 0 → _
      omega
  | firstByte time =>
      rw [mark_firstByte]
      exact hp.unset
  | _ => exact hp.unset

theorem bearsOut_nil (p : Progress) (h : Histogram) : p.BearsOut h [] := Or.inl rfl

theorem latency?_eq_some_iff {p : Progress} {h : Histogram} {span : Duration} :
    p.latency? h = some span ↔
      ∃ start time, p.start = some start ∧ p.milestone? h = some time ∧ time.since start = span := by
  cases h with
  | timeToFirstCandidate =>
      simp only [latency?, milestone?, timeToFirstCandidate]
      cases p.start <;> cases p.firstCandidate <;> simp
  | timeToFirstByte =>
      simp only [latency?, milestone?, timeToFirstByte]
      cases p.start <;> cases p.firstByte <;> simp
  | _ => simp [latency?, milestone?]

/-! ### Stability -/

/-- A start time that is set stays as it is. -/
theorem start_mark {p : Progress} {time : Timestamp} (h : p.start = some time) (m : Mark) :
    (p.mark m).2.start = some time := by
  cases m with
  | start later => rw [mark_start, h, Option.some_or]
  | candidates later count => rw [mark_candidates, h]
  | firstByte later => rw [mark_firstByte, h]
  | _ => exact h

/-- So does the time of a milestone. -/
theorem Dated.milestone?_mark {p : Progress} (hp : p.Dated) {h : Histogram} {time : Timestamp}
    (hset : p.milestone? h = some time) (m : Mark) : (p.mark m).2.milestone? h = some time := by
  cases h with
  | timeToFirstCandidate =>
      have hset : p.firstCandidate = some time := hset
      show (p.mark m).2.firstCandidate = some time
      cases m with
      | start later => rw [mark_start, hset]
      | candidates later count =>
          have hsome : p.candidates ≠ 0 := fun hzero => by simp [hp.unset hzero] at hset
          rw [mark_candidates]
          exact (if_neg hsome).trans hset
      | firstByte later => rw [mark_firstByte, hset]
      | _ => exact hset
  | timeToFirstByte =>
      have hset : p.firstByte = some time := hset
      show (p.mark m).2.firstByte = some time
      cases m with
      | start later => rw [mark_start, hset]
      | candidates later count => rw [mark_candidates, hset]
      | firstByte later => rw [mark_firstByte, hset, Option.some_or]
      | _ => exact hset
  | _ => cases hset

theorem Dated.latency?_mark {p : Progress} (hp : p.Dated) {h : Histogram} {span : Duration}
    (hspan : p.latency? h = some span) (m : Mark) : (p.mark m).2.latency? h = some span := by
  obtain ⟨start, time, hstart, hset, hsince⟩ := latency?_eq_some_iff.mp hspan
  exact latency?_eq_some_iff.mpr
    ⟨start, time, start_mark hstart m, hp.milestone?_mark hset m, hsince⟩

/-! ### One write -/

/-- What is told while `p` becomes `p'` gives no sample, or it gives one where there was no latency
before. -/
def Samples (h : Histogram) (p p' : Progress) (updates : List Update) : Prop :=
  sampled h updates = [] ∨ p.latency? h = none ∧ p'.BearsOut h (sampled h updates)

/-- A mark keeps what is borne out, and adds a sample only to none. -/
theorem BearsOut.mark {p : Progress} {h : Histogram} {samples : List (Number × Attributes)}
    (hsamples : p.BearsOut h samples) (hp : p.Dated) {m : Mark} {updates : List Update}
    (htold : Samples h p (p.mark m).2 updates) :
    (p.mark m).2.BearsOut h (samples ++ sampled h updates) := by
  rcases htold with hnone | ⟨habsent, hnew⟩
  · rw [hnone, List.append_nil]
    rcases hsamples with rfl | ⟨span, attributes, hspan, rfl⟩
    · exact bearsOut_nil _ h
    · exact Or.inr ⟨span, attributes, hp.latency?_mark hspan m, rfl⟩
  · rcases hsamples with rfl | ⟨span, attributes, hspan, -⟩
    · exact hnew
    · rw [habsent] at hspan
      cases hspan

/-- The sample of a milestone that is reached for the first time. -/
theorem samples_sinceStart {h : Histogram} {p p' : Progress} {time : Timestamp}
    (hunset : p.milestone? h = none) (hset : p'.milestone? h = some time) (c : Counter)
    (attributes attributes' : Attributes) :
    Samples h p p' (.count c attributes :: Metering.sinceStart h time attributes' p'.start) := by
  have hsampled : sampled h (.count c attributes :: Metering.sinceStart h time attributes' p'.start)
      = p'.start.toList.map fun start => (.double (time.since start).toSeconds, attributes') :=
    (Metering.sampled_sinceStart h h time attributes' p'.start).trans (if_pos rfl)
  cases hstart : p'.start with
  | none =>
      rw [hstart] at hsampled
      exact Or.inl hsampled
  | some start =>
      rw [hstart] at hsampled
      refine Or.inr ⟨?_, Or.inr ⟨time.since start, attributes', ?_, hsampled⟩⟩
      · refine Option.eq_none_iff_forall_ne_some.mpr fun span hspan => ?_
        obtain ⟨start, first, -, hfirst, -⟩ := latency?_eq_some_iff.mp hspan
        rw [hunset] at hfirst
        cases hfirst
      · exact latency?_eq_some_iff.mpr ⟨start, time, hstart, hset, rfl⟩

end Progress

/-! ### Rules -/

open Progress (Samples)

/-- What an action has to do with the samples of a latency. -/
def Action.Times (h : Histogram) : Action → Prop
  | .mark m told => ∀ p : Progress, p.Dated →
      Samples h p (p.mark m).2 (told (p.mark m).1 (p.mark m).2.start)
  | .close told => ∀ p, sampled h (told p).1 = []
  | .tell updates => sampled h updates = []

namespace Metering

variable {h : Histogram}

/-- The events that end a retrieval are those with a rule that closes it. -/
theorem ends_iff {e : Event} : e.ends = true ↔ ∃ told, rule e = .close told := by
  constructor
  · intro hends
    unfold Event.ends Event.isOf at hends
    simp only [Bool.or_eq_true, decide_eq_true_eq] at hends
    rcases hends with ⟨hphase, hcode⟩ | ⟨hphase, hcode⟩
    · exact ⟨_, by rw [rule, hphase, hcode]; rfl⟩
    · exact ⟨_, rule_success hphase hcode⟩
  · rintro ⟨told, hrule⟩
    by_contra hends
    have hdrives := drives_rule (Bool.eq_false_iff.mpr hends)
    rw [hrule] at hdrives
    exact hdrives

/-- A mark that an event makes counts some candidates, if it counts any. -/
theorem counts_of_rule {e : Event} {m : Mark} {told : MarkAnswer → Option Timestamp → List Update}
    (hrule : rule e = .mark m told) : m.Counts := by
  have hends : e.ends = false := by
    refine Bool.eq_false_iff.mpr fun hends => ?_
    obtain ⟨told', hclose⟩ := ends_iff.mp hends
    rw [hrule] at hclose
    cases hclose
  have hdrives := drives_rule hends
  rw [hrule] at hdrives
  exact hdrives.2.1

theorem times_ifFirst {m : Mark} {updates : Option Timestamp → List Update}
    (hfirst : ∀ p : Progress, p.Dated → (p.mark m).1 = .first true →
      Samples h p (p.mark m).2 (updates (p.mark m).2.start)) :
    (Action.mark m (ifFirst updates)).Times h := by
  intro p hp
  unfold ifFirst
  split
  · rename_i hanswer
    exact hfirst p hp hanswer
  · exact Or.inl rfl

/-- A mark that is only counted. -/
theorem times_counted (m : Mark) (c : Counter) (attributes : Attributes) :
    (Action.mark m (ifFirst fun _ => [.count c attributes])).Times h :=
  times_ifFirst fun _ _ _ => Or.inl rfl

theorem times_ifCounted {e : Event} {rule : Int → Action} (hrule : ∀ count, (rule count).Times h) :
    (ifCounted e rule).Times h := by
  unfold ifCounted
  split
  · rfl
  · split
    · rfl
    · exact hrule _

theorem times_candidatesFound (hh : h ∈ Histogram.latencies) (e : Event) :
    (candidatesFound e).Times h := by
  refine times_ifCounted fun count => times_ifFirst fun p hp hanswer => ?_
  have hzero : p.candidates = 0 := by
    by_contra hsome
    simp [Progress.mark, hsome] at hanswer
  by_cases hown : .timeToFirstCandidate = h
  · subst hown
    have hunset : p.milestone? .timeToFirstCandidate = none := hp.unset hzero
    have hset : (p.mark (.candidates e.time count)).2.milestone? .timeToFirstCandidate
        = some e.time := by
      rw [Progress.mark_candidates]
      exact if_pos hzero
    exact Progress.samples_sinceStart hunset hset _ _ _
  · exact Or.inl ((sampled_sinceStart h _ e.time [] _).trans (if_neg hown))

theorem times_firstByte (e : Event) : (firstByte e).Times h := by
  refine times_ifFirst fun p hp hanswer => ?_
  have hnone : p.firstByte = none := by
    cases hsome : p.firstByte with
    | none => rfl
    | some time => simp [Progress.mark, hsome] at hanswer
  by_cases hown : .timeToFirstByte = h
  · subst hown
    have hunset : p.milestone? .timeToFirstByte = none := hnone
    have hset : (p.mark (.firstByte e.time)).2.milestone? .timeToFirstByte = some e.time := by
      rw [Progress.mark_firstByte, hnone]
      rfl
    exact Progress.samples_sinceStart hunset hset _ _ _
  · exact Or.inl ((sampled_sinceStart h _ e.time _ _).trans (if_neg hown))

theorem sampled_failureUpdates (h : Histogram) (e : Event) : sampled h (failureUpdates e) = [] := by
  unfold failureUpdates
  rw [sampled_append]
  cases e.errorText? <;> split <;> rfl

/-- A whole number is no latency. -/
theorem sampled_whole (hh : h ∈ Histogram.latencies) {h' : Histogram}
    (hother : h' ∉ Histogram.latencies) (count : Int) (attributes : Attributes)
    (updates : List Update) :
    sampled h (.whole h' count attributes :: updates) = sampled h updates := by
  have hne : h' ≠ h := fun heq => hother (heq ▸ hh)
  simp [sampled, Update.whole, hne]

theorem sampled_successTransfer (hh : h ∈ Histogram.latencies) (e : Event) (p : Progress) :
    sampled h (successTransfer e p).1 = [] := by
  have hsize : ∀ bytes attributes updates,
      sampled h (.whole .dealSize bytes attributes :: updates) = sampled h updates :=
    sampled_whole hh (by decide)
  unfold successTransfer
  cases e.received? with
  | none => rfl
  | some bytes =>
      cases p.firstByte with
      | none => exact hsize bytes _ []
      | some first =>
          dsimp only
          split
          · split
            · exact hsize bytes _ []
            · exact (hsize bytes _ _).trans (sampled_whole hh (by decide) _ _ [])
          · exact hsize bytes _ []

/-- A success samples the whole duration but no latency. -/
theorem sampled_successUpdates (hh : h ∈ Histogram.latencies) (e : Event) (p : Progress) :
    sampled h (successUpdates e p).1 = [] := by
  have hhead : sampled h (successHead e p) = [] := by
    rw [sampled_successHead, if_neg]
    rintro rfl
    revert hh
    decide
  have hcounts : sampled h (perRequest p.candidates p.filtered p.failures) = [] := by
    unfold perRequest
    rw [sampled_whole hh (by decide), sampled_whole hh (by decide), sampled_whole hh (by decide)]
    rfl
  have htransfer := sampled_successTransfer hh e p
  unfold successUpdates
  rcases hmade : successTransfer e p with ⟨transfer, _ | fault⟩
  · rw [hmade] at htransfer
    rw [sampled_append, sampled_append, hhead, htransfer, hcounts]
    rfl
  · rw [hmade] at htransfer
    rw [sampled_append, hhead, htransfer]
    rfl

/-- Every rule samples a latency only where there was none, and then the one that there is from now
on. -/
theorem times_rule (hh : h ∈ Histogram.latencies) (e : Event) : (rule e).Times h := by
  unfold rule
  split
  · exact times_counted _ _ _
  · exact times_candidatesFound hh e
  · exact times_ifCounted fun count => times_counted _ _ _
  · exact fun _ => rfl
  · rfl
  · rfl
  · rfl
  · unfold retrievalStarted
    split <;> exact times_counted _ _ _
  · exact fun p _ => Or.inl (sampled_failureUpdates h e)
  · exact times_firstByte e
  · exact sampled_successUpdates hh e
  · rfl

end Metering

/-! ### One call -/

/-- The samples of a histogram are borne out by what is known of a retrieval; if nothing is, then
there are none. -/
def Progress.Vouches (h : Histogram) (known? : Option Progress)
    (samples : List (Number × Attributes)) : Prop :=
  match known? with
  | none => samples = []
  | some p => p.Dated ∧ p.BearsOut h samples

namespace Correlator

open Progress (Vouches)

/-- The updates of a call, each with the retrieval that it is about.  A record is a whole retrieval of
its own, which is never live. -/
def callCredits (c : Correlator) : Call → List (Uuid × Update)
  | .step s => c.stepCredits s
  | .record _ => []
  | .recordWith _ _ => []
  | .stop => []

/-- What calls tell of a live retrieval. -/
def toldOf (c : Correlator) (id : Uuid) : List Call → List Update
  | [] => []
  | a :: rest => creditedTo id (c.callCredits a) ++ (c.call a).correlator.toldOf id rest

theorem toldOf_concat (c : Correlator) (id : Uuid) (calls : List Call) (a : Call) :
    c.toldOf id (calls ++ [a])
      = c.toldOf id calls ++ creditedTo id ((c.afterCalls calls).callCredits a) := by
  induction calls generalizing c with
  | nil => exact List.append_nil _
  | cons b rest ih =>
      rw [List.cons_append, toldOf, ih, toldOf, List.append_assoc]
      rfl

/-- What is known of a retrieval when a call ends it or finds its time up. -/
def summary? (c : Correlator) (id : Uuid) : Call → Option Progress
  | .step (.event _ e) => if e.retrieval = id ∧ e.ends then (c.table.finish id).1 else none
  | .step (.expire now) => (c.table.expire now).1.lookup id
  | .record _ => none
  | .recordWith _ _ => none
  | .stop => none

variable {c : Correlator} {id : Uuid} {h : Histogram} {samples : List (Number × Attributes)}

/-- What an event tells of its retrieval is vouched for by the track that it leaves, or it leaves none
and tells no latency. -/
theorem vouches_track (hh : h ∈ Histogram.latencies) (timeout : Number) (now : Binary64) (e : Event)
    {x : Track} (hx : Vouches h (x.map fun known => known.2) samples) :
    let told := (Metering.rule e).track timeout now x
    Vouches h (told.2.map fun known => known.2) (samples ++ sampled h told.1) ∨
      told.2 = none ∧ sampled h told.1 = [] := by
  have htimes := Metering.times_rule hh e
  cases hrule : Metering.rule e with
  | mark m told =>
      rw [hrule] at htimes
      have hcounts : m.Counts := Metering.counts_of_rule hrule
      have hmark : ∀ {p : Progress}, p.Dated → p.BearsOut h samples →
          (p.mark m).2.Dated ∧ (p.mark m).2.BearsOut h
            (samples ++ sampled h (told (p.mark m).1 (p.mark m).2.start)) :=
        fun hp hout => ⟨hp.mark hcounts, hout.mark hp (htimes _ hp)⟩
      refine Or.inl ?_
      unfold Action.track
      cases x with
      | some known => exact hmark hx.1 hx.2
      | none =>
          obtain rfl : samples = [] := hx
          cases timeout.toDouble? with
          | some lifetime => exact hmark Progress.dated_empty (Progress.bearsOut_nil _ h)
          | none => exact ⟨Progress.dated_empty, Progress.bearsOut_nil _ h⟩
  | close told =>
      rw [hrule] at htimes
      cases x with
      | some known => exact Or.inr ⟨rfl, htimes known.2⟩
      | none => exact Or.inr ⟨rfl, rfl⟩
  | tell updates =>
      rw [hrule] at htimes
      have htimes : sampled h updates = [] := htimes
      refine Or.inl ?_
      show Vouches h (x.map _) (samples ++ sampled h updates)
      rw [htimes, List.append_nil]
      exact hx

/-- An expiry tells of a retrieval at most that it expired. -/
theorem sampled_expire (h : Histogram) (c : Correlator) (id : Uuid) (now : Binary64) :
    sampled h (creditedTo id (c.callCredits (.step (.expire now)))) = [] := by
  refine List.filterMap_eq_nil_iff.mpr fun u hu => ?_
  obtain ⟨credit, hcredit, rfl⟩ := List.mem_map.mp hu
  obtain ⟨expired, -, rfl⟩ := List.mem_map.mp (List.mem_of_mem_filter hcredit)
  rfl

/-- A call that tells no latency of a retrieval and leaves what is known of it as it is. -/
theorem vouches_of_same {a : Call} (hknown : Vouches h (c.table.known? id) samples)
    (hstays : (c.call a).correlator.table.known? id = c.table.known? id)
    (hnone : sampled h (creditedTo id (c.callCredits a)) = []) :
    Vouches h ((c.call a).correlator.table.known? id)
      (samples ++ sampled h (creditedTo id (c.callCredits a))) := by
  rw [hstays, hnone, List.append_nil]
  exact hknown

theorem vouches_event (hh : h ∈ Histogram.latencies) (hsound : LiveTable.Sound c.table)
    (now : Binary64) (e : Event) (hknown : Vouches h (c.table.known? id) samples) :
    let a : Call := .step (.event now e)
    Vouches h ((c.call a).correlator.table.known? id)
        (samples ++ sampled h (creditedTo id (c.callCredits a))) ∨
      (c.call a).correlator.table.known? id = none ∧
        sampled h (creditedTo id (c.callCredits a)) = [] := by
  intro a
  have hknown' : (c.call a).correlator.table.known? id
      = ((c.call a).correlator.table.track id).map fun x => x.2 :=
    (sound_step hsound (.event now e)).1.known?_eq id
  have hevent := creditedTo_event hsound now e id
  have htold : creditedTo id (c.callCredits a) = _ := hevent.1
  have htrack : (c.call a).correlator.table.track id = _ := hevent.2
  by_cases hid : e.retrieval = id
  · rw [if_pos hid] at htold htrack
    rw [hsound.known?_eq] at hknown
    rw [hknown', htold, htrack, Option.map_eq_none_iff]
    exact vouches_track hh c.table.timeout now e hknown
  · rw [if_neg hid] at htold htrack
    refine Or.inl (vouches_of_same hknown ?_ (by rw [htold]; rfl))
    rw [hknown', htrack, hsound.known?_eq]

/-- What a call tells of a retrieval is vouched for by what is known of it afterwards, or it is over
and no latency was told. -/
theorem vouches_call (hh : h ∈ Histogram.latencies) (hsound : LiveTable.Sound c.table) (a : Call)
    (hknown : Vouches h (c.table.known? id) samples) :
    Vouches h ((c.call a).correlator.table.known? id)
        (samples ++ sampled h (creditedTo id (c.callCredits a))) ∨
      (c.call a).correlator.table.known? id = none ∧
        sampled h (creditedTo id (c.callCredits a)) = [] := by
  cases a with
  | step s =>
      cases s with
      | event now e => exact vouches_event hh hsound now e hknown
      | expire now =>
          have htable : (c.call (.step (.expire now))).correlator.table = (c.table.expire now).2 :=
            adopt_table c _
          have hnone := sampled_expire h c id now
          cases hlive : (c.table.expire now).2.live? id with
          | none => exact Or.inr ⟨by rw [htable, LiveTable.known?_of_absent hlive], hnone⟩
          | some entry =>
              obtain ⟨hold, hprogress⟩ := hsound.live?_expire now hlive
              refine Or.inl (vouches_of_same hknown ?_ hnone)
              rw [htable, LiveTable.known?_of_live hlive, LiveTable.known?_of_live hold, hprogress]
  | record r => exact Or.inl (vouches_of_same hknown (by rw [call, c.table_record r]) rfl)
  | recordWith names r =>
      exact Or.inl (vouches_of_same hknown (by rw [call, recordWith, c.table_tell]) rfl)
  | stop => exact Or.inl (vouches_of_same hknown rfl rfl)

/-! ### The end of a retrieval -/

/-- An event leaves a live retrieval live, unless it is one that ends it. -/
theorem live?_event (hsound : LiveTable.Sound c.table) {entry : LiveEntry}
    (hlive : c.table.live? id = some entry) (now : Binary64) {e : Event}
    (hgoes : ¬(e.retrieval = id ∧ e.ends = true)) :
    (c.event now e).correlator.table.live? id = some entry := by
  have htable : (c.event now e).correlator.table
      = ((Metering.rule e).apply now c.table e.retrieval).table := adopt_table c _
  rw [htable]
  cases hrule : Metering.rule e with
  | mark m told =>
      have hentered : (c.table.enter now e.retrieval).2.live? id = some entry := by
        rw [LiveTable.live?_enter, hlive]
        rfl
      rcases Action.mark_table c.table m told now e.retrieval with hmade | ⟨handle, -, hmade⟩
      · rw [hmade]
        exact hentered
      · rw [hmade]
        exact hentered
  | close told =>
      have hother : id ≠ e.retrieval :=
        fun hid => hgoes ⟨hid.symm, Metering.ends_iff.mpr ⟨told, hrule⟩⟩
      rw [Action.close_table, hsound.live?_finish, if_neg hother]
      exact hlive
  | tell updates => exact hlive

/-- An expiry takes a live retrieval out of the table with what is known of it, or leaves it there. -/
theorem expire_cases {t : LiveTable} (hsound : LiveTable.Sound t) {entry : LiveEntry}
    (hlive : t.live? id = some entry) (now : Binary64) :
    ((t.expire now).1.lookup id = none ∧ (t.expire now).2.live? id = some entry) ∨
      ((t.expire now).1.lookup id = t.known? id ∧ (t.expire now).2.live? id = none) := by
  have hin := (LiveTable.live?_eq_some_iff hsound.ids).mp hlive
  have hexpiring : ∀ e ∈ t.expiring now, e.1 = id → e = (id, entry) := fun e he hid =>
    List.inj_on_of_nodup_map hsound.ids (hsound.mem_expiring.mp he).1 hin hid
  cases hlookup : (t.expire now).1.lookup id with
  | none =>
      refine Or.inl ⟨rfl, (LiveTable.live?_eq_some_iff (hsound.expire now).ids).mpr ?_⟩
      rw [hsound.expire_entries, List.mem_filter, Bool.not_eq_true', Bool.eq_false_iff]
      refine ⟨hin, fun hdue => ?_⟩
      rw [hsound.expire_fst] at hlookup
      have hmem : (id, t.progress entry.handle)
          ∈ (t.expiring now).map fun e => (e.1, t.progress e.2.handle) :=
        List.mem_map.mpr ⟨_, hsound.mem_expiring.mpr ⟨hin, hdue⟩, rfl⟩
      exact absurd (List.lookup_eq_none_iff.mp hlookup _ hmem) (by simp)
  | some p =>
      obtain ⟨front, rest, hsplit, -⟩ := List.lookup_eq_some_iff.mp hlookup
      have hmem : (id, p) ∈ (t.expire now).1 := by simp [hsplit]
      rw [hsound.expire_fst] at hmem
      obtain ⟨e, he, hp⟩ := List.mem_map.mp hmem
      obtain ⟨hid, rfl⟩ := Prod.mk.inj hp
      obtain rfl := hexpiring e he hid
      refine Or.inr ⟨(LiveTable.known?_of_live hlive).symm, ?_⟩
      refine LiveTable.live?_eq_none_iff.mpr fun f hf hfid => ?_
      rw [hsound.expire_entries, List.mem_filter, Bool.not_eq_true', Bool.eq_false_iff] at hf
      obtain rfl := List.inj_on_of_nodup_map hsound.ids hf.1 hin hfid
      exact hf.2 (hsound.mem_expiring.mp he).2

/-- A live retrieval goes on, or a call takes it out of the table with what is known of it. -/
theorem summary?_cases (hsound : LiveTable.Sound c.table) {entry : LiveEntry}
    (hlive : c.table.live? id = some entry) (a : Call) :
    (c.summary? id a = none ∧ (c.call a).correlator.table.live? id = some entry) ∨
      (c.summary? id a = c.table.known? id ∧ (c.call a).correlator.table.live? id = none) := by
  cases a with
  | step s =>
      cases s with
      | event now e =>
          by_cases hends : e.retrieval = id ∧ e.ends = true
          · obtain ⟨rfl, hends⟩ := hends
            obtain ⟨told, hrule⟩ := Metering.ends_iff.mp hends
            have htable : (c.call (.step (.event now e))).correlator.table
                = ((Metering.rule e).apply now c.table e.retrieval).table := adopt_table c _
            refine Or.inr ⟨?_, ?_⟩
            · rw [summary?, if_pos ⟨rfl, hends⟩, LiveTable.finish_some hlive,
                LiveTable.known?_of_live hlive]
            · rw [htable, hrule, Action.close_table, hsound.live?_finish, if_pos rfl]
          · exact Or.inl ⟨if_neg hends, live?_event hsound hlive now hends⟩
      | expire now =>
          have htable : (c.call (.step (.expire now))).correlator.table = (c.table.expire now).2 :=
            adopt_table c _
          rw [htable]
          exact expire_cases hsound hlive now
  | record r => exact Or.inl ⟨rfl, by rw [call, c.table_record r]; exact hlive⟩
  | recordWith names r => exact Or.inl ⟨rfl, by rw [call, recordWith, c.table_tell]; exact hlive⟩
  | stop => exact Or.inl ⟨rfl, hlive⟩

/-! ### A whole run -/

/-- The samples since a live retrieval was made live are vouched for by what is known of it. -/
theorem vouches_since (hh : h ∈ Histogram.latencies) (hsound : LiveTable.Sound c.table)
    {entry : LiveEntry} {before : List Call} {first : Call} {since : List Call}
    (hbegun : c.Begun id entry before first since) :
    Vouches h ((c.afterCalls (before ++ first :: since)).table.known? id)
      (sampled h ((c.afterCalls before).toldOf id (first :: since))) := by
  induction since using List.reverseRecOn with
  | nil =>
      have hnone : Vouches h ((c.afterCalls before).table.known? id) [] := by
        rw [LiveTable.known?_of_absent hbegun.absent]
        rfl
      have hlive := LiveTable.known?_of_live (hbegun.stays [] (List.prefix_refl _))
      rw [afterCalls_concat] at hlive ⊢
      rw [toldOf, toldOf, List.append_nil]
      rcases vouches_call hh (sound_afterCalls before hsound).1 first hnone with hvouches | ⟨hgone, -⟩
      · exact hvouches
      · rw [hlive] at hgone
        cases hgone
  | append_singleton since a ih =>
      have hlive := LiveTable.known?_of_live (hbegun.stays (since ++ [a]) (List.prefix_refl _))
      have hvouches := ih ⟨hbegun.absent, hbegun.event, fun mid hmid =>
        hbegun.stays mid (hmid.trans (List.prefix_append since [a]))⟩
      rw [← List.cons_append, ← List.append_assoc, afterCalls_concat] at hlive ⊢
      rw [toldOf_concat, Metering.sampled_append, ← afterCalls_append]
      rcases vouches_call hh (sound_afterCalls _ hsound).1 a hvouches with hvouches | ⟨hgone, -⟩
      · exact hvouches
      · rw [hlive] at hgone
        cases hgone

/-- Since a live retrieval was made live, its events have given at most one sample of each latency,
whatever calls came in between.  The retrieval goes on until some call makes its summary, and the
summary has the latency that was sampled. -/
theorem latency_told_once {timeout : Number} {capacity : Int} {pool : Pool} {table : LiveTable}
    (hpool : Pool.ofCapacity capacity = .ok pool)
    (htable : LiveTable.ofTimeout timeout pool = .ok table) (resolver : Option Resolver)
    (meter : Option Meter) (calls : List Call) {id : Uuid} {entry : LiveEntry} :
    let c : Correlator := { table := table, resolver := resolver, meter := meter }
    (c.afterCalls calls).table.live? id = some entry →
    ∃ before first since, calls = before ++ first :: since ∧
      c.Begun id entry before first since ∧
      ∀ h ∈ Histogram.latencies,
        let samples := fun own => sampled h ((c.afterCalls before).toldOf id own)
        (samples (first :: since)).length ≤ 1 ∧
        ∀ last,
          ((c.afterCalls calls).summary? id last = none →
            (c.afterCalls (calls ++ [last])).table.live? id = some entry) ∧
          ∀ p, (c.afterCalls calls).summary? id last = some p →
            (c.afterCalls (calls ++ [last])).table.live? id = none ∧
              p.BearsOut h (samples (first :: since ++ [last])) := by
  intro c hlive
  have hsound : LiveTable.Sound c.table := LiveTable.sound_of_ofTimeout hpool htable
  obtain rfl := LiveTable.eq_of_ofTimeout htable
  obtain ⟨before, first, since, rfl, hbegun, -⟩ := begun_of_live hsound rfl calls hlive
  refine ⟨before, first, since, rfl, hbegun, fun h hh => ?_⟩
  have hsound' := (sound_afterCalls (before ++ first :: since) hsound).1
  have hvouches := vouches_since hh hsound hbegun
  have hknown := LiveTable.known?_of_live hlive
  obtain ⟨-, hout⟩ : Vouches h (some _) _ := hknown ▸ hvouches
  refine ⟨hout.length_le, fun last => ?_⟩
  rw [afterCalls_concat]
  rcases summary?_cases hsound' hlive last with ⟨hsummary, hlive'⟩ | ⟨hsummary, hgone⟩
  · rw [hsummary]
    exact ⟨fun _ => hlive', fun p hp => nomatch hp⟩
  · rw [hsummary, hknown]
    refine ⟨fun hp => (nomatch hp), ?_⟩
    rintro p ⟨⟩
    refine ⟨hgone, ?_⟩
    show Progress.BearsOut _ h (sampled h ((c.afterCalls before).toldOf id _))
    rw [toldOf_concat, Metering.sampled_append, ← afterCalls_append]
    rcases vouches_call hh hsound' last hvouches with hvouches' | ⟨-, hnone⟩
    · rw [LiveTable.known?_of_absent hgone] at hvouches'
      exact Or.inl hvouches'
    · rw [hnone, List.append_nil]
      exact hout

/-- A retrieval that ended once finds candidates after two and a half seconds.  What comes later does
not change that: more candidates with an earlier time, a start that was earlier still, a first byte
from before the start.  Then its time is up. -/
theorem latency_told_once_second_life :
    let table : LiveTable := { timeout := .int 60, pool := { capacity := 4 } }
    let c : Correlator := { table := table }
    let event : Phase → EventCode → Int → Call := fun phase code millis =>
      .step (.event (.zero false)
        { Event.bare ⟨1⟩ phase code with
          time := ⟨millis * 1000, 0⟩
          raw := .object [("candidateCount", .number (.int 3))] })
    let firstLife : List Call :=
      [event .indexer .started 0, event .indexer .candidatesFound 700,
       event .retrieval .success 800]
    let secondLife : List Call :=
      [event .indexer .started 1000, event .indexer .candidatesFound 3500,
       event .indexer .candidatesFound 1500, event .indexer .started 900,
       event .retrieval .firstByte 500, event .retrieval .firstByte 4000]
    let last : Call := .step (.expire (.ofInt 60))
    let calls := firstLife ++ secondLife
    let samples : Histogram → List (Number × Attributes) := fun h =>
      sampled h ((c.afterCalls firstLife).toldOf ⟨1⟩ (secondLife ++ [last]))
    (c.afterCalls calls).table.live? ⟨1⟩ = some ⟨⟨0, 2⟩, 1⟩ ∧
      (∃ before first since p, calls = before ++ first :: since ∧
        c.Begun ⟨1⟩ ⟨⟨0, 2⟩, 1⟩ before first since ∧
        (c.afterCalls calls).summary? ⟨1⟩ last = some p ∧
        ∀ h ∈ Histogram.latencies,
          p.BearsOut h (sampled h ((c.afterCalls before).toldOf ⟨1⟩ (first :: since ++ [last])))) ∧
      -- Two and a half, and minus a half.
      samples .timeToFirstCandidate = [(.double (.finite false 0x14000000000000 (-51)), [])] ∧
      samples .timeToFirstByte
        = [(.double (.finite true 0x10000000000000 (-53)), Update.protocol "bitswap")] := by
  intro table c event firstLife secondLife last calls samples
  have hpool : Pool.ofCapacity 4 = .ok { capacity := 4 } := rfl
  have htable : LiveTable.ofTimeout (.int 60) { capacity := 4 } = .ok table := rfl
  have hlive : (c.afterCalls calls).table.live? ⟨1⟩ = some ⟨⟨0, 2⟩, 1⟩ := by decide +kernel
  have hends : ((c.afterCalls calls).summary? ⟨1⟩ last).isSome = true := by decide +kernel
  obtain ⟨before, first, since, hcalls, hbegun, hagrees⟩ :=
    latency_told_once hpool htable none none calls hlive
  obtain ⟨p, hp⟩ := Option.isSome_iff_exists.mp hends
  refine ⟨hlive, ⟨before, first, since, p, hcalls, hbegun, hp, fun h hh => ?_⟩, ?_⟩
  · exact (((hagrees h hh).2 last).2 p hp).2
  · decide +kernel

end Correlator

end RetrievalTelemetry
