/-
What a record tells, instrument by instrument.

A record is told in one pass over its attempts, and three things are kept on the way: the
transports that were tried, the failures, and the fastest attempt.  Here the pass is taken apart.
For each counter there is a list of what was added to it, with the attributes, and for each
histogram a list of its samples; `Accounts` says what all these lists are in terms of the attempts,
without the order of the pass.

The transports that were tried grow as the pass goes on, so the induction over the attempts is for
any transports that were tried before: a transport among them is told no more, and any other one
is told by the first attempt over it.
-/
import RetrievalTelemetry.Metering.Record
import RetrievalTelemetry.Proofs.Metering.Category
import RetrievalTelemetry.Proofs.Metering.Success
import RetrievalTelemetry.Proofs.Metering.Tally

namespace RetrievalTelemetry

/-! ### Counters -/

/-- The counters that attempts are added to. -/
def Counter.isAttempt : Counter → Bool
  | bitswapAttempts | graphsyncAttempts | httpAttempts | graphsyncFailures | httpFailures
  | error _ => true
  | _ => false

namespace Transport

/-- The counter of the records that tried a transport. -/
def attemptCounter : Transport → Counter
  | bitswap => .bitswapAttempts
  | graphsync => .graphsyncAttempts
  | http => .httpAttempts

/-- The counter of failed attempts over a transport; those over bitswap have none. -/
def failureCounter? : Transport → Option Counter
  | bitswap => none
  | graphsync => some .graphsyncFailures
  | http => some .httpFailures

/-- The counter of the records that succeeded over a transport. -/
def successCounter : Transport → Counter
  | bitswap => .bitswapSuccess
  | graphsync => .graphsyncSuccess
  | http => .httpSuccess

/-- The attributes that name a provider over a transport; bitswap names none. -/
def tags (t : Transport) (names : Metering.Names) (provider : String) : Attributes :=
  if t = bitswap then [] else Metering.providerTags names provider

/-- A label is that of a family if it is the name of the family. -/
theorem ofLabel?_eq_some_iff {label : String} {t : Transport} :
    ofLabel? label = some t ↔ label = t.name := by
  unfold ofLabel?
  constructor
  · intro h
    have hname := List.find?_some h
    exact (eq_of_beq hname).symm
  · rintro rfl
    cases t <;> rfl

end Transport

/-- Whether the transport of an attempt is of a family. -/
def Attempt.isOver (t : Transport) (a : Attempt) : Bool := Transport.label a.transport = t.name

def Attempt.failed (a : Attempt) : Bool := a.error ≠ ""

namespace Update

/-- What is added to the counters of errors, with the attributes. -/
def errorsAdded (updates : List Update) : List (ErrorCategory × Int × Attributes) :=
  updates.filterMap fun
    | .add (.error category) delta attributes => some (category, delta, attributes)
    | _ => none

/-- A call that adds to a counter of attempts. -/
def isAttempt : Update → Bool
  | .add c .. => c.isAttempt
  | .record .. => false

/-- Counts of attempts and other calls do not go to the same counters. -/
theorem added_eq_nil {c : Counter} {updates : List Update}
    (h : ∀ u ∈ updates, u.isAttempt ≠ c.isAttempt) : added c updates = [] := by
  refine List.filterMap_eq_nil_iff.mpr fun u hu => ?_
  have hu := h u hu
  cases u with
  | record h value attributes => rfl
  | add c' delta attributes =>
      refine if_neg ?_
      rintro rfl
      exact hu rfl

/-- Counts of attempts are no samples. -/
theorem sampled_eq_nil (h : Histogram) {updates : List Update}
    (hall : ∀ u ∈ updates, u.isAttempt = true) : sampled h updates = [] := by
  refine List.filterMap_eq_nil_iff.mpr fun u hu => ?_
  have hu := hall u hu
  cases u with
  | record h value attributes => cases hu
  | add c delta attributes => rfl

/-- Errors are counts of attempts. -/
theorem errorsAdded_eq_nil {updates : List Update} (h : ∀ u ∈ updates, u.isAttempt = false) :
    errorsAdded updates = [] := by
  refine List.filterMap_eq_nil_iff.mpr fun u hu => ?_
  have hu := h u hu
  cases u with
  | record h value attributes => rfl
  | add c delta attributes =>
      cases c with
      | error category => cases hu
      | _ => rfl

theorem errorsAdded_append (us vs : List Update) :
    errorsAdded (us ++ vs) = errorsAdded us ++ errorsAdded vs :=
  List.filterMap_append

end Update

namespace Metering

open Transport (attemptCounter failureCounter? successCounter ofLabel?_eq_some_iff)
open Update (added errorsAdded sampled added_append errorsAdded_append)

variable (names : Names)

/-! ### One attempt -/

/-- What the first attempt over a transport tells. -/
theorem added_attemptUpdates (t : Transport) (provider label : String) :
    added (attemptCounter t) (attemptUpdates (providerTags names provider) label)
      = if label = t.name then [(1, t.tags names provider)] else [] := by
  simp only [← ofLabel?_eq_some_iff]
  unfold attemptUpdates
  cases Transport.ofLabel? label with
  | none => rfl
  | some u => cases u <;> cases t <;> rfl

/-- What a failed attempt tells of its transport. -/
theorem added_attemptFailureUpdates {t : Transport} {c : Counter} (hc : failureCounter? t = some c)
    (tags : Attributes) (label error : String) :
    added c (attemptFailureUpdates tags label error) = if label = t.name then [(1, tags)] else [] := by
  simp only [← ofLabel?_eq_some_iff]
  unfold attemptFailureUpdates
  cases t with
  | bitswap => cases hc
  | graphsync =>
      cases hc
      cases Transport.ofLabel? label with
      | none => rfl
      | some u => cases u <;> rfl
  | http =>
      cases hc
      cases Transport.ofLabel? label with
      | none => rfl
      | some u => cases u <;> rfl

/-- A failed attempt is no first attempt. -/
theorem added_attemptFailureUpdates_attempt (t : Transport) (tags : Attributes)
    (label error : String) :
    added (attemptCounter t) (attemptFailureUpdates tags label error) = [] := by
  unfold attemptFailureUpdates
  cases Transport.ofLabel? label with
  | none => cases t <;> rfl
  | some u => cases u <;> cases t <;> rfl

/-- A failed attempt has one error. -/
theorem errorsAdded_attemptFailureUpdates (tags : Attributes) (label error : String) :
    errorsAdded (attemptFailureUpdates tags label error)
      = [(ErrorCategory.ofMessage error, 1, Update.protocol label)] := by
  unfold attemptFailureUpdates
  cases Transport.ofLabel? label with
  | none => rfl
  | some u => cases u <;> rfl

/-- An attempt tells nothing but counts of attempts. -/
theorem isAttempt_updates (tags : Attributes) (label error : String) :
    (∀ u ∈ attemptUpdates tags label, u.isAttempt = true) ∧
      ∀ u ∈ attemptFailureUpdates tags label error, u.isAttempt = true := by
  unfold attemptUpdates attemptFailureUpdates
  cases Transport.ofLabel? label with
  | none => simp [Update.isAttempt, Counter.isAttempt, Update.count]
  | some u => cases u <;> simp [Update.isAttempt, Counter.isAttempt, Update.count]

/-! ### The pass over the attempts -/

/-- Each transport that was not tried before is told by the first attempt over it. -/
theorem added_attempts (t : Transport) (attempts : List (String × Attempt)) :
    ∀ seen, added (attemptCounter t) (attemptsUpdates names seen attempts)
      = if t.name ∈ seen then []
        else ((attempts.find? fun a => a.2.isOver t).map fun a => (1, t.tags names a.1)).toList := by
  induction attempts with
  | nil =>
      intro seen
      split <;> rfl
  | cons a rest ih =>
      obtain ⟨provider, attempt⟩ := a
      intro seen
      have hfailure : added (attemptCounter t)
          (if attempt.error = "" then []
            else attemptFailureUpdates (providerTags names provider)
              (Transport.label attempt.transport) attempt.error) = [] := by
        split
        · rfl
        · exact added_attemptFailureUpdates_attempt t _ _ _
      have hfind : ((provider, attempt) :: rest).find? (fun a => a.2.isOver t)
          = if Transport.label attempt.transport = t.name then some (provider, attempt)
            else rest.find? fun a => a.2.isOver t := by
        rw [List.find?_cons]
        unfold Attempt.isOver
        by_cases hlabel : Transport.label attempt.transport = t.name <;> simp [hlabel]
      have hfirst := added_attemptUpdates names t provider (Transport.label attempt.transport)
      rw [attemptsUpdates, added_append, added_append, hfailure, ih, hfind, List.append_nil]
      by_cases hlabel : Transport.label attempt.transport = t.name
      · rw [hlabel, if_pos rfl] at hfirst
        rw [hlabel]
        by_cases hseen : t.name ∈ seen
        · simp [hseen, added]
        · simp [hseen, hfirst]
      · rw [if_neg hlabel] at hfirst
        have hnone : added (attemptCounter t)
            (if seen.contains (Transport.label attempt.transport) then []
              else attemptUpdates (providerTags names provider)
                (Transport.label attempt.transport)) = [] := by
          split
          · rfl
          · exact hfirst
        rw [hnone, if_neg hlabel, List.nil_append]
        simp [Ne.symm hlabel]

/-- What is not told of first attempts is told of failed attempts, each in its turn. -/
theorem filterMap_attemptsUpdates {β : Type} {observe : Update → Option β}
    (hfirst : ∀ tags label, (attemptUpdates tags label).filterMap observe = [])
    (attempts : List (String × Attempt)) :
    ∀ seen, (attemptsUpdates names seen attempts).filterMap observe
      = (attempts.filter fun a => a.2.failed).flatMap fun a =>
          (attemptFailureUpdates (providerTags names a.1) (Transport.label a.2.transport)
            a.2.error).filterMap observe := by
  induction attempts with
  | nil => exact fun _ => rfl
  | cons a rest ih =>
      obtain ⟨provider, attempt⟩ := a
      intro seen
      have hnone : (if seen.contains (Transport.label attempt.transport) then []
          else attemptUpdates (providerTags names provider)
            (Transport.label attempt.transport)).filterMap observe = [] := by
        split
        · rfl
        · exact hfirst _ _
      rw [attemptsUpdates, List.filterMap_append, List.filterMap_append, hnone, ih, List.nil_append,
        List.filter_cons]
      unfold Attempt.failed
      by_cases herror : attempt.error = "" <;> simp [herror]

/-- The failures over a transport are told one by one. -/
theorem added_failures {t : Transport} {c : Counter} (hc : failureCounter? t = some c)
    (attempts : List (String × Attempt)) (seen : List String) :
    added c (attemptsUpdates names seen attempts)
      = ((attempts.filter fun a => a.2.failed).filter fun a => a.2.isOver t).map fun a =>
          (1, providerTags names a.1) := by
  have hfirst : ∀ tags label, added c (attemptUpdates tags label) = [] := by
    intro tags label
    unfold attemptUpdates
    cases t with
    | bitswap => cases hc
    | graphsync =>
        cases hc
        split <;> rfl
    | http =>
        cases hc
        split <;> rfl
  refine (filterMap_attemptsUpdates names hfirst attempts seen).trans ?_
  generalize attempts.filter (fun a => a.2.failed) = failures
  induction failures with
  | nil => rfl
  | cons a rest ih =>
      have hone := added_attemptFailureUpdates hc (providerTags names a.1)
        (Transport.label a.2.transport) a.2.error
      rw [List.flatMap_cons, ih, List.filter_cons]
      refine (congrArg (· ++ _) hone).trans ?_
      unfold Attempt.isOver
      by_cases hlabel : Transport.label a.2.transport = t.name <;> simp [hlabel]

/-- The errors are told one by one. -/
theorem errorsAdded_attempts (attempts : List (String × Attempt)) (seen : List String) :
    errorsAdded (attemptsUpdates names seen attempts)
      = (attempts.filter fun a => a.2.failed).map fun a =>
          (ErrorCategory.ofMessage a.2.error, 1,
           Update.protocol (Transport.label a.2.transport)) := by
  have hfirst : ∀ tags label, errorsAdded (attemptUpdates tags label) = [] := by
    intro tags label
    unfold attemptUpdates
    split <;> rfl
  refine (filterMap_attemptsUpdates names hfirst attempts seen).trans ?_
  rw [List.map_eq_flatMap]
  exact congrArg (fun g => List.flatMap g _)
    (funext fun a => errorsAdded_attemptFailureUpdates _ _ _)

/-- The attempts tell nothing else. -/
theorem isAttempt_attempts (attempts : List (String × Attempt)) :
    ∀ seen, ∀ u ∈ attemptsUpdates names seen attempts, u.isAttempt = true := by
  induction attempts with
  | nil => simp [attemptsUpdates]
  | cons a rest ih =>
      obtain ⟨provider, attempt⟩ := a
      intro seen
      obtain ⟨hfirst, hfailure⟩ := isAttempt_updates (providerTags names provider)
        (Transport.label attempt.transport) attempt.error
      rw [attemptsUpdates]
      refine List.forall_mem_append.mpr ⟨List.forall_mem_append.mpr ⟨?_, ?_⟩, ih _⟩
      · split
        · simp
        · exact hfirst
      · split
        · simp
        · exact hfailure

/-! ### The rest of a record -/

/-- What a record tells between its attempts and its end. -/
def between (r : Record) : List Update := indexerUpdates r ++ recordFirstByteUpdates r

theorem record_eq (r : Record) :
    record names r
      = .count .requests :: (attemptsUpdates names [] r.attempts ++
          (between r ++ endingUpdates names r)) := by
  unfold record between
  simp only [List.cons_append, List.append_assoc]

/-- Between the attempts and the end, three counters and two histograms are told and no others. -/
theorem between_frame (r : Record) :
    (∀ c, c ∉ [Counter.candidates, .candidatesFiltered, .firstByte] → added c (between r) = []) ∧
      ∀ h, h ∉ [Histogram.timeToFirstCandidate, .timeToFirstByte] → sampled h (between r) = [] := by
  unfold between indexerUpdates recordFirstByteUpdates
  refine ⟨fun c hc => ?_, fun h hh => ?_⟩
  · simp only [List.mem_cons, List.not_mem_nil, or_false, not_or] at hc
    obtain ⟨hcandidates, hfiltered, hfirstByte⟩ := hc
    split_ifs <;>
      simp [added, Update.count, Update.seconds, Ne.symm hcandidates, Ne.symm hfiltered,
        Ne.symm hfirstByte]
  · simp only [List.mem_cons, List.not_mem_nil, or_false, not_or] at hh
    obtain ⟨hcandidate, hbyte⟩ := hh
    split_ifs <;>
      simp [sampled, Update.count, Update.seconds, Ne.symm hcandidate, Ne.symm hbyte]

/-- What a success tells of its transport. -/
theorem added_successCounter (t : Transport) (provider label : String) :
    added (Transport.successCounter t) (Metering.successCounter (providerTags names provider) label)
      = if label = t.name then [(1, t.tags names provider)] else [] := by
  simp only [← ofLabel?_eq_some_iff]
  unfold Metering.successCounter
  cases Transport.ofLabel? label with
  | none => rfl
  | some u => cases u <;> cases t <;> rfl

/-- The samples of a success. -/
def successSamples (r : Record) : List Update :=
  let protocol := Update.protocol (Transport.label r.transport)
  [.seconds .dealDuration r.duration.toSeconds protocol, .whole .dealSize r.bytes protocol,
   .whole .bandwidth r.bandwidth protocol] ++
    perRequest r.candidates r.filtered (failureCount r)

/-- A record ends with a success, with an indexer failure, or with nothing. -/
theorem ending_eq (r : Record) :
    endingUpdates names r
      = if r.success then
          .count .success (Update.protocol (Transport.label r.transport)) ::
            (Metering.successCounter (providerTags names r.provider) (Transport.label r.transport) ++
              successSamples r)
        else if r.attempts.isEmpty then [.count .indexerFailures] else [] := by
  unfold endingUpdates recordSuccessUpdates successSamples
  simp only [List.cons_append, List.append_assoc]

theorem added_ending (r : Record) (c : Counter) :
    added c (endingUpdates names r)
      = if r.success then
          added c [.count .success (Update.protocol (Transport.label r.transport))] ++
            added c (Metering.successCounter (providerTags names r.provider)
              (Transport.label r.transport))
        else if r.attempts.isEmpty then added c [.count .indexerFailures] else [] := by
  have hsamples : added c (successSamples r) = [] := rfl
  rw [ending_eq]
  split
  · rw [← List.singleton_append, added_append, added_append, hsamples, List.append_nil]
  · split <;> rfl

/-- Behind the attempts no counter of attempts is told. -/
theorem isAttempt_rest (r : Record) :
    ∀ u ∈ between r ++ endingUpdates names r, u.isAttempt = false := by
  have hbetween : ∀ u ∈ between r, u.isAttempt = false := by
    unfold between indexerUpdates recordFirstByteUpdates
    split_ifs <;> simp [Update.isAttempt, Counter.isAttempt, Update.count, Update.seconds]
  have hsamples : ∀ u ∈ successSamples r, u.isAttempt = false := by
    simp [successSamples, perRequest, Update.isAttempt, Update.seconds, Update.whole]
  have hsuccess : ∀ u ∈ Metering.successCounter (providerTags names r.provider)
      (Transport.label r.transport), u.isAttempt = false := by
    unfold Metering.successCounter
    split <;> simp [Update.isAttempt, Counter.isAttempt, Update.count]
  refine List.forall_mem_append.mpr ⟨hbetween, ?_⟩
  rw [ending_eq]
  split
  · exact List.forall_mem_cons.mpr ⟨rfl, List.forall_mem_append.mpr ⟨hsuccess, hsamples⟩⟩
  · split
    · exact List.forall_mem_singleton.mpr rfl
    · simp

/-! ### A whole record -/

/-- A counter of attempts gets what the attempts tell. -/
theorem added_record_attempt (r : Record) {c : Counter} (hc : c.isAttempt = true) :
    added c (record names r) = added c (attemptsUpdates names [] r.attempts) := by
  have hrequest : added c [.count .requests] = [] :=
    Update.added_eq_nil (List.forall_mem_singleton.mpr (by rw [hc]; nofun))
  have hrest : added c (between r ++ endingUpdates names r) = [] :=
    Update.added_eq_nil fun u hu => by rw [isAttempt_rest names r u hu, hc]; nofun
  rw [record_eq, ← List.singleton_append, added_append, added_append, hrequest, hrest,
    List.nil_append, List.append_nil]

/-- A counter of other things gets what the end tells, unless it is told between. -/
theorem added_record_ending (r : Record) {c : Counter} (hc : c.isAttempt = false)
    (hbetween : c ∉ [Counter.candidates, .candidatesFiltered, .firstByte]) :
    added c (record names r)
      = added c [.count .requests] ++ added c (endingUpdates names r) := by
  have hattempts : added c (attemptsUpdates names [] r.attempts) = [] :=
    Update.added_eq_nil fun u hu => by rw [isAttempt_attempts names _ _ u hu, hc]; nofun
  rw [record_eq, ← List.singleton_append, added_append, added_append, added_append, hattempts,
    (between_frame r).1 c hbetween, List.nil_append, List.nil_append]

/-- The samples that are not told between are those of a success. -/
theorem sampled_record (r : Record) {h : Histogram}
    (hbetween : h ∉ [Histogram.timeToFirstCandidate, .timeToFirstByte]) :
    sampled h (record names r) = if r.success then sampled h (successSamples r) else [] := by
  have hattempts : sampled h (attemptsUpdates names [] r.attempts) = [] :=
    Update.sampled_eq_nil h (isAttempt_attempts names _ _)
  have hsuccess : sampled h (Metering.successCounter (providerTags names r.provider)
      (Transport.label r.transport)) = [] := by
    unfold Metering.successCounter
    split <;> rfl
  have hrequest : ∀ us, sampled h (.count .requests :: us) = sampled h us := fun _ => rfl
  have hcount : ∀ a us, sampled h (.count .success a :: us) = sampled h us := fun _ _ => rfl
  rw [record_eq, hrequest, sampled_append, sampled_append, hattempts,
    (between_frame r).2 h hbetween, ending_eq]
  split
  · rw [hcount, sampled_append, hsuccess]
    rfl
  · split <;> rfl

end Metering

namespace Record

open Update (added errorsAdded sampled)
open Transport (attemptCounter failureCounter? successCounter)

/-- What a record tells of its attempts and of its end.  A success has samples of five kinds: its
duration, its size, its rate, its candidates (all of them and those that passed the filter), and its
failures. -/
structure Accounts (r : Record) (names : Metering.Names) (told : List Update) : Prop where
  request : added .requests told = [(1, [])]
  /-- A transport is counted once if it was tried, with the provider that was tried first. -/
  attempt : ∀ t, added (attemptCounter t) told
    = ((r.attempts.find? fun a => a.2.isOver t).map fun a => (1, t.tags names a.1)).toList
  /-- Each failed attempt is counted for its transport, with its provider, ... -/
  failure : ∀ t c, failureCounter? t = some c → added c told
    = ((r.attempts.filter fun a => a.2.failed).filter fun a => a.2.isOver t).map fun a =>
        (1, Metering.providerTags names a.1)
  /-- ... and for the category of its error, with its transport. -/
  errors : List.Forall₂
    (fun (error : ErrorCategory × Int × Attributes) (a : String × Attempt) =>
      ErrorCategory.IsOf a.2.error error.1 ∧
        error.2 = (1, Update.protocol (Transport.label a.2.transport)))
    (errorsAdded told) (r.attempts.filter fun a => a.2.failed)
  success : added .success told
    = if r.success then [(1, Update.protocol (Transport.label r.transport))] else []
  successOver : ∀ t, added (successCounter t) told
    = if r.success ∧ Transport.label r.transport = t.name then [(1, t.tags names r.provider)] else []
  oneTransport : ∀ t u, added (successCounter t) told ≠ [] → added (successCounter u) told ≠ [] →
    t = u
  duration : sampled .dealDuration told
    = if r.success then
        [(.double r.duration.toSeconds, Update.protocol (Transport.label r.transport))] else []
  size : sampled .dealSize told
    = if r.success then [(.int r.bytes, Update.protocol (Transport.label r.transport))] else []
  rate : sampled .bandwidth told
    = if r.success then [(.int r.bandwidth, Update.protocol (Transport.label r.transport))] else []
  candidates : sampled .candidatesPerRequest told
    = if r.success then [(.int r.candidates, [])] else []
  filtered : sampled .filteredPerRequest told = if r.success then [(.int r.filtered, [])] else []
  failures : sampled .failuresPerRequest told
    = if r.success then [(.int (r.attempts.countP fun a => a.2.failed), [])] else []
  indexerFailure : added .indexerFailures told
    = if r.success = false ∧ r.attempts = [] then [(1, [])] else []

end Record

namespace Metering

open Update (added errorsAdded sampled)

/-- Every record is accounted for, whatever names its providers have. -/
theorem record_accounts (names : Names) (r : Record) : r.Accounts names (record names r) := by
  have hover : ∀ t : Transport, added t.successCounter (record names r)
      = if r.success ∧ Transport.label r.transport = t.name then [(1, t.tags names r.provider)]
        else [] := by
    intro t
    have hc : t.successCounter.isAttempt = false := by cases t <;> rfl
    have hbetween : t.successCounter ∉ [Counter.candidates, .candidatesFiltered, .firstByte] := by
      cases t <;> decide
    have hothers : ∀ c ∈ [Counter.requests, .success, .indexerFailures], ∀ a,
        added t.successCounter [.count c a] = [] := by
      intro c hc a
      simp only [List.mem_cons, List.not_mem_nil, or_false] at hc
      rcases hc with rfl | rfl | rfl <;> cases t <;> rfl
    rw [added_record_ending names r hc hbetween, added_ending, added_successCounter,
      hothers .requests (by simp), hothers .success (by simp), hothers .indexerFailures (by simp)]
    cases r.success <;> simp
  have hbetween : ∀ c ∈ [Counter.requests, .success, .indexerFailures],
      c ∉ [Counter.candidates, .candidatesFiltered, .firstByte] := by decide
  have htransport : ∀ c ∈ [Counter.requests, .success, .indexerFailures],
      added c (Metering.successCounter (providerTags names r.provider)
        (Transport.label r.transport)) = [] := by
    intro c hc
    unfold Metering.successCounter
    simp only [List.mem_cons, List.not_mem_nil, or_false] at hc
    rcases hc with rfl | rfl | rfl <;> split <;> rfl
  refine
    { request := ?_
      attempt := fun t => ?_
      failure := fun t c hc => ?_
      errors := ?_
      success := ?_
      successOver := hover
      oneTransport := fun t u ht hu => ?_
      duration := sampled_record names r (by decide)
      size := sampled_record names r (by decide)
      rate := sampled_record names r (by decide)
      candidates := sampled_record names r (by decide)
      filtered := sampled_record names r (by decide)
      failures := sampled_record names r (by decide)
      indexerFailure := ?_ }
  · rw [added_record_ending names r rfl (hbetween _ (by simp)), added_ending,
      htransport _ (by simp)]
    cases r.success <;> cases r.attempts <;> rfl
  · have hc : t.attemptCounter.isAttempt = true := by cases t <;> rfl
    rw [added_record_attempt names r hc, added_attempts, if_neg List.not_mem_nil]
  · have hcounter : c.isAttempt = true := by
      cases t <;> cases hc <;> rfl
    rw [added_record_attempt names r hcounter, added_failures names hc]
  · have hrest := Update.errorsAdded_eq_nil (isAttempt_rest names r)
    have hrequest : ∀ us, errorsAdded (.count .requests :: us) = errorsAdded us := fun _ => rfl
    rw [record_eq, hrequest, Update.errorsAdded_append, hrest, List.append_nil, errorsAdded_attempts,
      List.forall₂_map_left_iff]
    exact List.forall₂_same.mpr fun a _ => ⟨ErrorCategory.isOf_iff.mpr rfl, rfl⟩
  · rw [added_record_ending names r rfl (hbetween _ (by simp)), added_ending,
      htransport _ (by simp)]
    cases r.success <;> cases r.attempts <;> rfl
  · rw [hover] at ht hu
    -- The label of the record names one family at most.
    have ht := Transport.ofLabel?_eq_some_iff.mpr (ite_ne_right_iff.mp ht).1.2
    have hu := Transport.ofLabel?_eq_some_iff.mpr (ite_ne_right_iff.mp hu).1.2
    exact Option.some.inj (ht.symm.trans hu)
  · rw [added_record_ending names r rfl (hbetween _ (by simp)), added_ending,
      htransport _ (by simp)]
    cases r.success <;> cases r.attempts <;> rfl

end Metering

end RetrievalTelemetry
