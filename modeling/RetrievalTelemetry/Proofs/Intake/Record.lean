/-
What is known of a valid record.

Every field of a record is checked on its own, and a field that is left out has a value that would pass
the check.  So what a check ensures holds of the field in every valid record: counts are not negative
and spans of time within their bounds, those of the attempts too.  That a successful record names its
provider is checked last.
-/
import RetrievalTelemetry.Proofs.Intake.Batch
import RetrievalTelemetry.Proofs.Metric.Limits

namespace RetrievalTelemetry

/-! ### Checks -/

namespace Checked

theorem map_eq_valid {α β : Type} {f : α → β} {x : Checked α} {b : β} :
    f <$> x = valid b ↔ ∃ a, x = valid a ∧ f a = b := by
  cases x with
  | valid a =>
      show valid (f a) = valid b ↔ _
      simp
  | invalid problems =>
      show (invalid problems : Checked β) = valid b ↔ _
      simp

/-- A field that is put together with those before it is valid, and so are they. -/
theorem seq_eq_valid {α β : Type} {f : Checked (α → β)} {x : Checked α} {b : β} :
    f <*> x = valid b ↔ ∃ g a, f = valid g ∧ x = valid a ∧ g a = b := by
  have hseq : f <*> x = seq f x := rfl
  rw [hseq]
  cases f with
  | invalid problems => cases x <;> simp [seq]
  | valid g => cases x <;> simp [seq]

theorem andThen_eq_valid {α β : Type} {x : Checked α} {f : α → Checked β} {b : β} :
    x.andThen f = valid b ↔ ∃ a, x = valid a ∧ f a = valid b := by
  cases x with
  | valid a => simp [andThen]
  | invalid problems => simp [andThen]

/-- The entries of a table that is valid are valid. -/
theorem eachEntry_valid {α β : Type} {check : α → Checked β} {fields : List (String × α)}
    {entries : List (String × β)} (h : eachEntry check fields = valid entries) :
    ∀ entry ∈ entries, ∃ a, check a = valid entry.2 := by
  induction fields generalizing entries with
  | nil =>
      cases h
      simp
  | cons field rest ih =>
      rw [eachEntry, seq_map_eq_valid] at h
      obtain ⟨b, others, hfirst, hothers, rfl⟩ := h
      intro entry hentry
      rcases List.mem_cons.mp hentry with rfl | hold
      · exact ⟨field.2, under_eq_valid.mp hfirst⟩
      · exact ih hothers entry hold

end Checked

/-- Settled fields are some of the fields. -/
theorem mem_of_mem_settleFields {α β : Type} [BEq α] [LawfulBEq α] {fields : List (α × β)}
    {entry : α × β} (h : entry ∈ settleFields fields) : entry ∈ fields := by
  have hall : ∀ entry ∈ settleFields fields, entry ∈ fields := by
    unfold settleFields
    refine List.foldlRecOn fields _ (motive := fun done => ∀ entry ∈ done, entry ∈ fields) (by simp) ?_
    intro done hdone field hfield entry hentry
    rcases mem_putField hentry with rfl | hold
    · exact hfield
    · exact hdone entry hold
  exact hall entry h

namespace JsonCheck

/-- A field that may be left out has what its check ensures if its default has. -/
theorem optional_ensures {α : Type} {name : String} {default : α} {check : JsonCheck α} {P : α → Prop}
    (hdefault : P default) (hcheck : ∀ json a, check json = .valid a → P a) {json : Json} {a : α}
    (h : optional name default check json = .valid a) : P a := by
  unfold optional at h
  split at h
  · cases h
    exact hdefault
  · exact hcheck _ a (Checked.under_eq_valid.mp h)

/-- The values of a table have what the check of a value ensures. -/
theorem table_ensures {α : Type} {check : JsonCheck α} {P : α → Prop}
    (hcheck : ∀ json a, check json = .valid a → P a) (json : Json) (entries : List (String × α))
    (h : table check json = .valid entries) : ∀ entry ∈ entries, P entry.2 := by
  unfold table at h
  split at h
  · obtain ⟨checked, hchecked, rfl⟩ := Checked.map_eq_valid.mp h
    intro entry hentry
    obtain ⟨value, hvalue⟩ :=
      Checked.eachEntry_valid hchecked entry (mem_of_mem_settleFields hentry)
    exact hcheck value entry.2 hvalue
  · cases h

end JsonCheck

/-! ### Fields -/

namespace Duration

theorem inRange_of_ofMicroseconds? {x : Binary64} {d : Duration} (h : ofMicroseconds? x = some d) :
    d.inRange = true := by
  unfold ofMicroseconds? at h
  split at h
  · cases h
  · dsimp only at h
    split at h
    · rename_i hrange
      cases h
      exact hrange
    · cases h

theorem inRange_of_ofNanoseconds? {n : Number} {d : Duration} (h : ofNanoseconds? n = some d) :
    d.inRange = true := by
  cases n <;> exact inRange_of_ofMicroseconds? h

theorem inRange_of_ofText {text : String} {d : Duration} (h : ofText text = .ok d) :
    d.inRange = true := by
  unfold ofText at h
  dsimp only at h
  split at h
  · cases h
    rfl
  · split at h
    · cases h
    · split at h
      · split at h
        · cases h
        · rename_i hsome
          cases h
          exact inRange_of_ofNanoseconds? hsome
      · cases h

end Duration

namespace Intake

theorem count_nonneg (json : Json) (n : Int) (h : count json = .valid n) : 0 ≤ n := by
  unfold count Scalar.asIntegerFrom at h
  obtain ⟨m, -, hm⟩ := Checked.andThen_eq_valid.mp h
  split at hm
  · cases hm
  · rename_i hle
    cases hm
    exact Int.not_lt.mp hle

theorem durationOfNumber_inRange {n : Number} {d : Duration} (h : durationOfNumber n = .ok d) :
    d.inRange = true := by
  unfold durationOfNumber at h
  dsimp only at h
  split at h
  · cases h
  · split at h
    · rename_i hsome
      cases h
      exact Duration.inRange_of_ofNanoseconds? hsome
    · cases h

theorem duration_inRange (json : Json) (d : Duration) (h : duration json = .valid d) :
    d.inRange = true := by
  unfold duration at h
  cases json with
  | string s =>
      dsimp only at h
      cases hread : Duration.ofText s with
      | error e =>
          rw [hread] at h
          cases h
      | ok read =>
          rw [hread] at h
          cases h
          exact Duration.inRange_of_ofText hread
  | number n =>
      dsimp only at h
      cases hread : durationOfNumber n with
      | error e =>
          rw [hread] at h
          cases h
      | ok read =>
          rw [hread] at h
          cases h
          exact durationOfNumber_inRange hread
  | _ => cases h

theorem optional_count_nonneg {name : String} {json : Json} {n : Int}
    (h : JsonCheck.optional name 0 count json = .valid n) : 0 ≤ n :=
  JsonCheck.optional_ensures (Int.le_refl 0) count_nonneg h

theorem optional_duration_inRange {name : String} {json : Json} {d : Duration}
    (h : JsonCheck.optional name Duration.zero duration json = .valid d) : d.inRange = true :=
  JsonCheck.optional_ensures (P := fun d => d.inRange = true) rfl duration_inRange h

theorem attempt_inRange (json : Json) (a : Attempt) (h : attempt json = .valid a) :
    a.firstByte.inRange = true := by
  unfold attempt at h
  obtain ⟨-, hfields⟩ := JsonCheck.object_eq_valid.mp h
  obtain ⟨_, firstByte, toTransport, hfirstByte, rfl⟩ := Checked.seq_eq_valid.mp hfields
  obtain ⟨_, transport, toError, -, rfl⟩ := Checked.seq_eq_valid.mp toTransport
  obtain ⟨error, -, rfl⟩ := Checked.map_eq_valid.mp toError
  exact optional_duration_inRange hfirstByte

end Intake

/-! ### Records -/

/-- What is known of a valid record. -/
structure Record.WellFormed (r : Record) : Prop where
  bandwidth : 0 ≤ r.bandwidth
  bytes : 0 ≤ r.bytes
  candidates : 0 ≤ r.candidates
  filtered : 0 ≤ r.filtered
  firstByte : r.firstByte.inRange = true
  firstCandidate : r.firstCandidate.inRange = true
  attempts : ∀ entry ∈ r.attempts, entry.2.firstByte.inRange = true
  provider : r.success = true → r.provider ≠ ""

namespace Intake

open JsonCheck (required optional table)

/-- The fields of an object say this record. -/
structure RecordOf (element : Json) (r : Record) : Prop where
  isObject : ∃ fields, element = .object fields
  instanceId : required "instanceId" text element = .valid r.instanceId
  retrieval : required "retrievalId" uuid element = .valid r.retrieval
  provider : optional "storageProviderId" "" text element = .valid r.provider
  firstByte : optional "timeToFirstByte" Duration.zero duration element = .valid r.firstByte
  bandwidth : optional "bandwidth" 0 count element = .valid r.bandwidth
  bytes : optional "bytesTransferred" 0 count element = .valid r.bytes
  success : required "success" truth element = .valid r.success
  start : required "startTime" timestamp element = .valid r.start
  finish : required "endTime" timestamp element = .valid r.finish
  firstCandidate :
    optional "timeToFirstIndexerResult" Duration.zero duration element = .valid r.firstCandidate
  candidates : optional "indexerCandidatesReceived" 0 count element = .valid r.candidates
  filtered : optional "indexerCandidatesFiltered" 0 count element = .valid r.filtered
  transport : optional "protocolSucceeded" "" text element = .valid r.transport
  attempts : optional "retrievalAttempts" [] (table attempt) element = .valid r.attempts
  named : r.success = true → r.provider ≠ ""

theorem recordOf_of_recordFields {element : Json} {r : Record}
    (hfields : recordFields element = .valid r) (hobject : ∃ fields, element = .object fields)
    (hnamed : r.success = true → r.provider ≠ "") : RecordOf element r := by
  unfold recordFields at hfields
  -- One field after another is taken off, the last one first.
  obtain ⟨_, attempts, toTransport, hattempts, rfl⟩ := Checked.seq_eq_valid.mp hfields
  obtain ⟨_, transport, toFiltered, htransport, rfl⟩ := Checked.seq_eq_valid.mp toTransport
  obtain ⟨_, filtered, toCandidates, hfiltered, rfl⟩ := Checked.seq_eq_valid.mp toFiltered
  obtain ⟨_, candidates, toFirstCandidate, hcandidates, rfl⟩ := Checked.seq_eq_valid.mp toCandidates
  obtain ⟨_, firstCandidate, toFinish, hfirstCandidate, rfl⟩ :=
    Checked.seq_eq_valid.mp toFirstCandidate
  obtain ⟨_, finish, toStart, hfinish, rfl⟩ := Checked.seq_eq_valid.mp toFinish
  obtain ⟨_, start, toSuccess, hstart, rfl⟩ := Checked.seq_eq_valid.mp toStart
  obtain ⟨_, success, toBytes, hsuccess, rfl⟩ := Checked.seq_eq_valid.mp toSuccess
  obtain ⟨_, bytes, toBandwidth, hbytes, rfl⟩ := Checked.seq_eq_valid.mp toBytes
  obtain ⟨_, bandwidth, toFirstByte, hbandwidth, rfl⟩ := Checked.seq_eq_valid.mp toBandwidth
  obtain ⟨_, firstByte, toProvider, hfirstByte, rfl⟩ := Checked.seq_eq_valid.mp toFirstByte
  obtain ⟨_, provider, toRetrieval, hprovider, rfl⟩ := Checked.seq_eq_valid.mp toProvider
  obtain ⟨_, retrieval, toInstanceId, hretrieval, rfl⟩ := Checked.seq_eq_valid.mp toRetrieval
  obtain ⟨instanceId, hinstanceId, rfl⟩ := Checked.map_eq_valid.mp toInstanceId
  exact ⟨hobject, hinstanceId, hretrieval, hprovider, hfirstByte, hbandwidth, hbytes, hsuccess,
    hstart, hfinish, hfirstCandidate, hcandidates, hfiltered, htransport, hattempts, hnamed⟩

/-- An element is a valid record exactly if its fields say it. -/
theorem record_eq_valid {element : Json} {r : Record} :
    record element = .valid r ↔ RecordOf element r := by
  unfold record
  rw [JsonCheck.object_eq_valid, Checked.andThen_eq_valid]
  constructor
  · rintro ⟨hobject, fields, hfields, hprovider⟩
    unfold withProvider at hprovider
    split at hprovider
    · cases hprovider
    · rename_i hnamed
      cases hprovider
      exact recordOf_of_recordFields hfields hobject (by simpa using hnamed)
  · intro h
    refine ⟨h.isObject, r, ?_, ?_⟩
    · unfold recordFields
      rw [h.instanceId, h.retrieval, h.provider, h.firstByte, h.bandwidth, h.bytes, h.success,
        h.start, h.finish, h.firstCandidate, h.candidates, h.filtered, h.transport, h.attempts]
      rfl
    · unfold withProvider
      rw [if_neg (by simpa using h.named)]

theorem record_wellFormed {json : Json} {r : Record} (h : record json = .valid r) :
    r.WellFormed := by
  have hrecord := record_eq_valid.mp h
  exact
    { bandwidth := optional_count_nonneg hrecord.bandwidth
      bytes := optional_count_nonneg hrecord.bytes
      candidates := optional_count_nonneg hrecord.candidates
      filtered := optional_count_nonneg hrecord.filtered
      firstByte := optional_duration_inRange hrecord.firstByte
      firstCandidate := optional_duration_inRange hrecord.firstCandidate
      attempts := JsonCheck.optional_ensures (by simp) (JsonCheck.table_ensures attempt_inRange)
        hrecord.attempts
      provider := hrecord.named }

/-- The items of a valid batch are valid. -/
theorem mem_batch {α : Type} {item : JsonCheck α} {body : Option Json} {items : List α}
    (h : batch item body = .ok items) : ∀ a ∈ items, ∃ value, item value = .valid a := by
  unfold batch at h
  split at h
  · cases h
  · rename_i json
    split at h
    · rename_i read hvalid
      cases h
      obtain ⟨-, hfield⟩ := JsonCheck.object_eq_valid.mp hvalid
      obtain ⟨value, -, hvalue⟩ := JsonCheck.required_eq_valid.mp hfield
      obtain ⟨values, -, hitems⟩ := JsonCheck.array_eq_valid.mp hvalue
      intro a ha
      obtain ⟨i, hi, rfl⟩ := List.getElem_of_mem ha
      have hi' : i < values.length := by rw [hitems.length_eq]; exact hi
      exact ⟨values[i], (List.forall₂_iff_get.mp hitems).2 i hi' hi⟩
    · cases h

end Intake

end RetrievalTelemetry
