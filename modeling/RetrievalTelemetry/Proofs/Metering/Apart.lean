/-
Transports that are of no known family.

A record names the transport of each attempt as the client likes, and the label of a name that is not
known is the name itself.  From there on only the label counts.  So a name that is not known is kept
apart from the families, unless it is the very label of one of them: then it is counted as that
family, and nothing can tell the two apart.

Most calls are made on the account of one transport: those about an attempt on that of the attempt,
those about the first byte on that of whoever gave it, and those about a success on that of whoever
delivered.  `accounts` writes this down, call by call.  That no counter depends on attempts over other
transports is stated without it as well, by leaving such an attempt out.
-/
import RetrievalTelemetry.Proofs.Metering.FirstByte

namespace RetrievalTelemetry

/-- The family that a counter is for. -/
def Counter.family? : Counter → Option Transport
  | bitswapAttempts | bitswapSuccess => some .bitswap
  | graphsyncAttempts | graphsyncFailures | graphsyncSuccess => some .graphsync
  | httpAttempts | httpFailures | httpSuccess => some .http
  | _ => none

/-- The family whose counter a call adds to. -/
def Update.family? : Update → Option Transport
  | add c .. => c.family?
  | record .. => none

/-- A call that adds to no counter of a family and does not name one. -/
structure Update.IsApart (u : Update) : Prop where
  counter : u.family? = none
  label : ∀ label, ("protocol", label) ∈ u.attributes → ∀ t : Transport, label ≠ t.name

namespace Transport

theorem label_unknown {codec : String} (h : ofMulticodec? codec = none) : label codec = codec := by
  unfold label
  rw [h]

theorem ofLabel?_eq_none_iff {label : String} :
    ofLabel? label = none ↔ ∀ t : Transport, label ≠ t.name := by
  rw [Option.eq_none_iff_forall_ne_some]
  exact forall_congr' fun t => not_congr ofLabel?_eq_some_iff

/-- The counters of a family. -/
theorem family?_eq_some {c : Counter} {t : Transport} (h : c.family? = some t) :
    c = attemptCounter t ∨ failureCounter? t = some c ∨ c = successCounter t := by
  cases c <;> cases h <;> decide

end Transport

namespace Metering

open Transport (attemptCounter failureCounter? successCounter label label_unknown
  ofLabel?_eq_none_iff)
open Update (added)

/-! ### Accounts -/

/-- Calls that are all made on one account; those on none are about the record as a whole. -/
def onAccount (codec : Option String) (updates : List Update) : List (Option String × Update) :=
  updates.map fun u => (codec, u)

/-- What the attempts tell, each attempt on the account of its transport. -/
def attemptsAccounts (names : Names) (seen : List String) :
    List (String × Attempt) → List (Option String × Update)
  | [] => []
  | a :: rest =>
    onAccount (some a.2.transport) (attemptsUpdates names seen [a]) ++
      attemptsAccounts names (label a.2.transport :: seen) rest

/-- The transport on whose account the first byte is told. -/
def firstByteAccount (r : Record) : String :=
  match fastest r with
  | none => r.transport
  | some attempt => if attempt.transport = "" then r.transport else attempt.transport

/-- What a record tells, each call with the name of the transport on whose account it is made. -/
def accounts (names : Names) (r : Record) : List (Option String × Update) :=
  onAccount none [.count .requests] ++ attemptsAccounts names [] r.attempts ++
    onAccount none (indexerUpdates r) ++
    onAccount (some (firstByteAccount r)) (recordFirstByteUpdates r) ++
    onAccount (if r.success then some r.transport else none) (endingUpdates names r)

variable (names : Names)

theorem onAccount_snd (codec : Option String) (updates : List Update) :
    (onAccount codec updates).map (·.2) = updates := by
  unfold onAccount
  rw [List.map_map]
  exact List.map_id _

theorem mem_onAccount {codec codec' : Option String} {updates : List Update} {u : Update} :
    (codec', u) ∈ onAccount codec updates ↔ codec' = codec ∧ u ∈ updates := by
  simp [onAccount, eq_comm, and_comm]

theorem attemptsUpdates_cons (seen : List String) (a : String × Attempt)
    (rest : List (String × Attempt)) :
    attemptsUpdates names seen (a :: rest)
      = attemptsUpdates names seen [a] ++
          attemptsUpdates names (label a.2.transport :: seen) rest := by
  simp [attemptsUpdates]

theorem attemptsAccounts_snd (attempts : List (String × Attempt)) :
    ∀ seen, (attemptsAccounts names seen attempts).map (·.2)
      = attemptsUpdates names seen attempts := by
  induction attempts with
  | nil => exact fun _ => rfl
  | cons a rest ih =>
      intro seen
      rw [attemptsAccounts, List.map_append, onAccount_snd, ih, ← attemptsUpdates_cons]

/-- The accounts hold all calls of the record and no others, in their order. -/
theorem accounts_snd (r : Record) : (accounts names r).map (·.2) = record names r := by
  unfold accounts record
  simp only [List.map_append, onAccount_snd, attemptsAccounts_snd, List.cons_append,
    List.nil_append, List.append_assoc]

theorem mem_attemptsAccounts {codec : String} {u : Update} {attempts : List (String × Attempt)} :
    ∀ {seen}, (some codec, u) ∈ attemptsAccounts names seen attempts →
      ∃ a seen, a.2.transport = codec ∧ u ∈ attemptsUpdates names seen [a] := by
  induction attempts with
  | nil => exact fun h => absurd h List.not_mem_nil
  | cons a rest ih =>
      intro seen h
      rcases List.mem_append.mp h with h | h
      · obtain ⟨hcodec, hu⟩ := mem_onAccount.mp h
        exact ⟨a, seen, (Option.some.inj hcodec).symm, hu⟩
      · exact ih h

/-- The first byte has the label of the transport on whose account it is told. -/
theorem label_firstByteAccount (r : Record) : label (firstByteAccount r) = firstByteLabel r := by
  unfold firstByteAccount firstByteLabel
  cases fastest r with
  | none => rfl
  | some a =>
      simp only [Transport.label_eq_empty_iff]
      exact apply_ite label _ _ _

/-! ### Calls that are kept apart -/

section Apart

variable {codec : String} (hunknown : Transport.ofMulticodec? codec = none)
  (hname : ∀ t : Transport, codec ≠ t.name)
include hunknown hname

theorem isApart_attempt {a : String × Attempt} (ha : a.2.transport = codec) (seen : List String)
    {u : Update} (hu : u ∈ attemptsUpdates names seen [a]) : u.IsApart := by
  have hlabel : label a.2.transport = codec := by rw [ha, label_unknown hunknown]
  have hfamily := ofLabel?_eq_none_iff.mpr hname
  obtain ⟨category, rfl⟩ : ∃ category, u = .count (.error category) (Update.protocol codec) := by
    unfold attemptsUpdates attemptsUpdates attemptUpdates attemptFailureUpdates at hu
    simp only [hlabel, hfamily, ite_self, List.nil_append, List.append_nil] at hu
    split at hu
    · cases hu
    · exact ⟨_, List.mem_singleton.mp hu⟩
  refine ⟨rfl, fun label hl => ?_⟩
  obtain rfl : label = codec := congrArg Prod.snd (List.mem_singleton.mp hl)
  exact hname

theorem isApart_firstByte {r : Record} (hr : firstByteAccount r = codec) {u : Update}
    (hu : u ∈ recordFirstByteUpdates r) : u.IsApart := by
  have hlabel : firstByteLabel r = codec := by
    rw [← label_firstByteAccount, hr, label_unknown hunknown]
  unfold recordFirstByteUpdates at hu
  rw [hlabel] at hu
  split at hu
  · simp only [List.mem_cons, List.not_mem_nil, or_false] at hu
    rcases hu with rfl | rfl
    all_goals
      refine ⟨rfl, fun label hl => ?_⟩
      obtain rfl : label = codec := congrArg Prod.snd (List.mem_singleton.mp hl)
      exact hname
  · cases hu

theorem isApart_ending {r : Record} (hsuccess : r.success = true) (hr : r.transport = codec)
    {u : Update} (hu : u ∈ endingUpdates names r) : u.IsApart := by
  have hlabel : label r.transport = codec := by rw [hr, label_unknown hunknown]
  have hfamily := ofLabel?_eq_none_iff.mpr hname
  have hprotocol : ∀ label, ("protocol", label) ∈ Update.protocol codec →
      ∀ t : Transport, label ≠ t.name := by
    intro label hl
    obtain rfl : label = codec := congrArg Prod.snd (List.mem_singleton.mp hl)
    exact hname
  rw [ending_eq, if_pos hsuccess, Metering.successCounter, successSamples, hlabel, hfamily] at hu
  simp only [perRequest, List.nil_append, List.cons_append, List.mem_cons, List.not_mem_nil,
    or_false] at hu
  rcases hu with rfl | rfl | rfl | rfl | rfl | rfl | rfl
  · exact ⟨rfl, hprotocol⟩
  · exact ⟨rfl, hprotocol⟩
  · exact ⟨rfl, hprotocol⟩
  · exact ⟨rfl, hprotocol⟩
  all_goals exact ⟨rfl, fun label hl => absurd hl List.not_mem_nil⟩

theorem isApart_account {r : Record} {u : Update} (hu : (some codec, u) ∈ accounts names r) :
    u.IsApart := by
  unfold accounts at hu
  simp only [List.mem_append, mem_onAccount, reduceCtorEq, false_and, false_or, or_false] at hu
  rcases hu with (hu | ⟨hcodec, hu⟩) | ⟨hcodec, hu⟩
  · obtain ⟨a, seen, ha, hu⟩ := mem_attemptsAccounts names hu
    exact isApart_attempt names hunknown hname ha seen hu
  · exact isApart_firstByte hunknown hname (Option.some.inj hcodec).symm hu
  · cases hsuccess : r.success with
    | false => simp [hsuccess] at hcodec
    | true =>
        rw [hsuccess, if_pos rfl] at hcodec
        exact isApart_ending names hunknown hname hsuccess (Option.some.inj hcodec).symm hu

theorem not_isOver {a : Attempt} (ha : a.transport = codec) (t : Transport) :
    a.isOver t = false := by
  unfold Attempt.isOver
  rw [ha, label_unknown hunknown]
  exact decide_eq_false (hname t)

/-- Counters of families do not depend on an attempt over a transport of no family. -/
theorem added_leaving_out {r : Record} {front back : List (String × Attempt)}
    {a : String × Attempt} (hsplit : r.attempts = front ++ a :: back) (ha : a.2.transport = codec)
    {c : Counter} (hc : c.family? ≠ none) :
    added c (record names r) = added c (record names { r with attempts := front ++ back }) := by
  obtain ⟨t, ht⟩ := Option.ne_none_iff_exists'.mp hc
  have hover := not_isOver hunknown hname ha t
  rcases Transport.family?_eq_some ht with rfl | hfailure | rfl
  · have hattempt : t.attemptCounter.isAttempt = true := by cases t <;> rfl
    have hfind : (front ++ a :: back).find? (fun a => a.2.isOver t)
        = (front ++ back).find? fun a => a.2.isOver t := by
      rw [List.find?_append, List.find?_append, List.find?_cons_of_neg (by simp [hover])]
    rw [added_record_attempt names r hattempt, added_record_attempt names _ hattempt, added_attempts,
      added_attempts, hsplit, hfind]
  · have hattempt : c.isAttempt = true := by cases t <;> cases hfailure <;> rfl
    have hfilter : ((front ++ a :: back).filter fun a => a.2.failed).filter (fun a => a.2.isOver t)
        = ((front ++ back).filter fun a => a.2.failed).filter fun a => a.2.isOver t := by
      rw [List.filter_filter, List.filter_filter, List.filter_append, List.filter_append,
        List.filter_cons_of_neg (by simp [hover])]
    rw [added_record_attempt names r hattempt, added_record_attempt names _ hattempt,
      added_failures names hfailure, added_failures names hfailure, hsplit, hfilter]
  · have hattempt : t.successCounter.isAttempt = false := by cases t <;> rfl
    have hbetween : t.successCounter ∉ [Counter.candidates, .candidatesFiltered, .firstByte] := by
      cases t <;> decide
    have hindexer : added t.successCounter [.count .indexerFailures] = [] := by cases t <;> rfl
    rw [added_record_ending names r hattempt hbetween, added_record_ending names _ hattempt hbetween,
      added_ending, added_ending, hindexer, ite_self, ite_self]

/-- Nor on a success over one. -/
theorem added_without_success {r : Record} (hr : r.transport = codec) {c : Counter}
    (hc : c.family? ≠ none) :
    added c (record names r) = added c (record names { r with success := false }) := by
  obtain ⟨t, ht⟩ := Option.ne_none_iff_exists'.mp hc
  have hattempts : c.isAttempt = true →
      added c (record names r) = added c (record names { r with success := false }) := by
    intro hattempt
    rw [added_record_attempt names r hattempt, added_record_attempt names _ hattempt]
  rcases Transport.family?_eq_some ht with rfl | hfailure | rfl
  · exact hattempts (by cases t <;> rfl)
  · exact hattempts (by cases t <;> cases hfailure <;> rfl)
  · have hattempt : t.successCounter.isAttempt = false := by cases t <;> rfl
    have hbetween : t.successCounter ∉ [Counter.candidates, .candidatesFiltered, .firstByte] := by
      cases t <;> decide
    have hindexer : added t.successCounter [.count .indexerFailures] = [] := by cases t <;> rfl
    have hhead : ∀ attributes, added t.successCounter [.count .success attributes] = [] := by
      intro attributes
      cases t <;> rfl
    have hlabel : label r.transport ≠ t.name := by
      rw [hr, label_unknown hunknown]
      exact hname t
    rw [added_record_ending names r hattempt hbetween, added_record_ending names _ hattempt hbetween,
      added_ending, added_ending, hindexer, hhead, added_successCounter, if_neg hlabel]
    simp

end Apart

/-! ### Names that are labels of families -/

/-- The name `old` is replaced by another one. -/
def rename (old new codec : String) : String := if codec = old then new else codec

end Metering

/-- The attempt over a transport that is named anew. -/
def Attempt.renamed (old new : String) (a : Attempt) : Attempt :=
  { a with transport := Metering.rename old new a.transport }

/-- The record with a transport named anew wherever it is named. -/
def Record.renamed (old new : String) (r : Record) : Record :=
  { r with
    transport := Metering.rename old new r.transport
    attempts := r.attempts.map fun a => (a.1, a.2.renamed old new) }

namespace Metering

open Transport (label)

variable (names : Names) (t : Transport)

/-- The label of a family has the same label as its name. -/
theorem label_rename (codec : String) : label (rename t.name t.multicodec codec) = label codec := by
  unfold rename
  split
  · rename_i h
    rw [h]
    cases t <;> rfl
  · rfl

theorem attemptsUpdates_renamed (attempts : List (String × Attempt)) :
    ∀ seen, attemptsUpdates names seen
        (attempts.map fun a => (a.1, a.2.renamed t.name t.multicodec))
      = attemptsUpdates names seen attempts := by
  induction attempts with
  | nil => exact fun _ => rfl
  | cons a rest ih =>
      intro seen
      have hlabel : label (a.2.renamed t.name t.multicodec).transport = label a.2.transport :=
        label_rename t a.2.transport
      have herror : (a.2.renamed t.name t.multicodec).error = a.2.error := rfl
      rw [List.map_cons, attemptsUpdates, attemptsUpdates, hlabel, herror, ih]

theorem fastest_renamed (r : Record) :
    fastest (r.renamed t.name t.multicodec)
      = (fastest r).map (Attempt.renamed t.name t.multicodec) := by
  have hstep : ∀ best a, faster (best.map (Attempt.renamed t.name t.multicodec))
      (Attempt.renamed t.name t.multicodec a)
        = (faster best a).map (Attempt.renamed t.name t.multicodec) := by
    intro best a
    unfold faster Attempt.renamed
    cases best with
    | none => split <;> rfl
    | some b =>
        dsimp only [Option.map_some]
        split_ifs <;> rfl
  have hpass : ∀ (attempts : List (String × Attempt)) best,
      ((attempts.map fun a => (a.1, a.2.renamed t.name t.multicodec)).map (·.2)).foldl faster
          (best.map (Attempt.renamed t.name t.multicodec))
        = ((attempts.map (·.2)).foldl faster best).map (Attempt.renamed t.name t.multicodec) := by
    intro attempts
    induction attempts with
    | nil => exact fun _ => rfl
    | cons a rest ih =>
        intro best
        simp only [List.map_cons, List.foldl_cons]
        rw [hstep, ih]
  exact hpass r.attempts none

theorem firstByteLabel_renamed (r : Record) :
    firstByteLabel (r.renamed t.name t.multicodec) = firstByteLabel r := by
  have hdelivered : label (r.renamed t.name t.multicodec).transport = label r.transport :=
    label_rename t r.transport
  unfold firstByteLabel
  rw [fastest_renamed, hdelivered]
  cases fastest r with
  | none => rfl
  | some a =>
      have hlabel : label (a.renamed t.name t.multicodec).transport = label a.transport :=
        label_rename t a.transport
      simp only [Option.map_some, hlabel]

theorem endingUpdates_renamed (r : Record) :
    endingUpdates names (r.renamed t.name t.multicodec) = endingUpdates names r := by
  have hdelivered : label (r.renamed t.name t.multicodec).transport = label r.transport :=
    label_rename t r.transport
  have hfailures : failureCount (r.renamed t.name t.multicodec) = failureCount r :=
    List.countP_map
  have hempty : (r.renamed t.name t.multicodec).attempts.isEmpty = r.attempts.isEmpty :=
    List.isEmpty_map
  have hsamples : successSamples (r.renamed t.name t.multicodec) = successSamples r := by
    unfold successSamples
    rw [hdelivered, hfailures]
    rfl
  rw [ending_eq, ending_eq, hdelivered, hempty, hsamples]
  rfl

/-- Nothing that is told distinguishes the label of a family from its name. -/
theorem record_renamed (r : Record) :
    record names (r.renamed t.name t.multicodec) = record names r := by
  have hfirst : recordFirstByteUpdates (r.renamed t.name t.multicodec)
      = recordFirstByteUpdates r := by
    unfold recordFirstByteUpdates
    rw [firstByteLabel_renamed]
    rfl
  have hattempts : attemptsUpdates names [] (r.renamed t.name t.multicodec).attempts
      = attemptsUpdates names [] r.attempts := attemptsUpdates_renamed names t r.attempts []
  have hindexer : indexerUpdates (r.renamed t.name t.multicodec) = indexerUpdates r := rfl
  unfold record
  rw [hattempts, hindexer, hfirst, endingUpdates_renamed]

end Metering

/-! ### Which names are kept apart -/

/-- The transport `codec` is kept apart from the families in what a record tells. -/
structure Record.KeepsApart (r : Record) (names : Metering.Names) (codec : String) : Prop where
  /-- No call on its account is about a family, neither by its counter nor by its label. -/
  told : ∀ u, (some codec, u) ∈ Metering.accounts names r → u.IsApart
  /-- Without any one of the attempts over it, the counters of the families get the same ... -/
  attempt : ∀ front a back, r.attempts = front ++ a :: back → a.2.transport = codec →
    ∀ c : Counter, c.family? ≠ none → Update.added c (Metering.record names r)
      = Update.added c (Metering.record names { r with attempts := front ++ back })
  /-- ... and without the success over it as well. -/
  success : r.transport = codec → ∀ c : Counter, c.family? ≠ none →
    Update.added c (Metering.record names r)
      = Update.added c (Metering.record names { r with success := false })

namespace Metering

/-- A transport that is not known is kept apart from the families in every record, unless its name is
the label of a family; then every record tells what it would tell if the family were named. -/
theorem unknown_keptApart_iff {codec : String} (hunknown : Transport.ofMulticodec? codec = none) :
    ((∀ names (r : Record), r.KeepsApart names codec) ↔ ∀ t : Transport, codec ≠ t.name) ∧
      ∀ t : Transport, codec = t.name →
        ∀ names r, record names (r.renamed codec t.multicodec) = record names r := by
  refine ⟨⟨fun h t => ?_, fun hname names r => ⟨fun u hu => ?_, ?_, ?_⟩⟩, ?_⟩
  · -- A success over it has its label.
    let r : Record := { (default : Record) with success := true, transport := codec }
    have hsuccess : (some codec, .count .success (Update.protocol (Transport.label codec)))
        ∈ accounts [] r := by
      refine List.mem_append_right _ (mem_onAccount.mpr ⟨rfl, ?_⟩)
      rw [ending_eq]
      exact List.mem_cons_self
    have hlabel := (h [] r).told _ hsuccess |>.label _ List.mem_cons_self t
    rwa [Transport.label_unknown hunknown] at hlabel
  · exact isApart_account names hunknown hname hu
  · exact fun front a back hsplit ha c hc =>
      added_leaving_out names hunknown hname hsplit ha hc
  · exact fun hr c hc => added_without_success names hunknown hname hr hc
  · rintro t rfl names r
    exact record_renamed names t r

/-- Two attempts over a transport of no family, one of them before one over bitswap. -/
theorem unknown_keptApart_iff_quic :
    let r : Record :=
      { (default : Record) with
        attempts :=
          [("p", { error := "timeout after 5s", transport := "transport-quic" }),
           ("q", { transport := "transport-bitswap" }), ("s", { transport := "transport-quic" })] }
    let others := { r with attempts := r.attempts.tail }
    Transport.ofMulticodec? "transport-quic" = none ∧
      Update.added .bitswapAttempts (record [] r) = Update.added .bitswapAttempts (record [] others) ∧
      Update.added .bitswapAttempts (record [] r) = [(1, [])] := by
  intro r others
  have hunknown : Transport.ofMulticodec? "transport-quic" = none := by decide
  have happart := (unknown_keptApart_iff hunknown).1.mpr (fun t => by cases t <;> decide) [] r
  exact ⟨hunknown, happart.attempt [] _ _ rfl rfl .bitswapAttempts (by decide), by decide⟩

/-- The name "bitswap" is not known, but an attempt over it is counted as one over bitswap. -/
theorem mistaken_for_bitswap :
    let r : Record :=
      { (default : Record) with attempts := [("p", { transport := "bitswap" })] }
    Transport.ofMulticodec? "bitswap" = none ∧
      Update.added .bitswapAttempts (record [] r) = [(1, [])] ∧ ¬r.KeepsApart [] "bitswap" := by
  intro r
  have hcounted : Update.added .bitswapAttempts (record [] r) = [(1, [])] := by decide
  refine ⟨by decide, hcounted, fun h => ?_⟩
  have hsame := h.attempt [] _ [] rfl rfl .bitswapAttempts (by decide)
  rw [hcounted] at hsame
  revert hsame
  decide

end Metering

end RetrievalTelemetry
