/-
What a posted batch of records delivers.

A record is what the fields of its element say, each field for itself.  Where a field says what no
record may have, or a success names no provider, there is no record that the element says, and with
one such element there is no batch.  So a batch that is accepted has a record for each element, and
every record is well formed, with times that say where they are.

Of a provider that is tried twice, the first place and the last attempt are kept; but every attempt
is checked.
-/
import RetrievalTelemetry.Proofs.Intake.Timestamp
import RetrievalTelemetry.Proofs.Time.Grammar

namespace RetrievalTelemetry

/-! ### Names of a table -/

section Names

variable {α β : Type} [BEq α] [LawfulBEq α]

theorem map_fst_putField (key : α) (value : β) (entries : List (α × β)) :
    (putField key value entries).map Prod.fst =
      if key ∈ entries.map Prod.fst then entries.map Prod.fst
      else entries.map Prod.fst ++ [key] := by
  induction entries with
  | nil => rfl
  | cons entry rest ih =>
      unfold putField
      cases h : entry.1 == key with
      | true =>
          have hkey : key = entry.1 := (eq_of_beq h).symm
          simp [hkey]
      | false =>
          have hne : key ≠ entry.1 := fun hkey => by simp [hkey] at h
          rw [if_neg (by simp), List.map_cons, ih]
          simp only [List.map_cons, List.mem_cons, hne, false_or]
          split <;> rfl

omit [LawfulBEq α] in
theorem settleFields_append (fields : List (α × β)) (entry : α × β) :
    settleFields (fields ++ [entry]) = putField entry.1 entry.2 (settleFields fields) := by
  simp [settleFields]

/-- Settled fields have the names of the fields, each at its first place. -/
theorem map_fst_settleFields (fields : List (α × β)) :
    (settleFields fields).map Prod.fst = (fields.map Prod.fst).eraseDups := by
  induction fields using List.reverseRecOn with
  | nil => rfl
  | append_singleton fields entry ih =>
      rw [settleFields_append, map_fst_putField, ih, List.map_append, List.eraseDups_append]
      by_cases h : entry.1 ∈ fields.map Prod.fst
      · rw [if_pos (List.mem_eraseDups.mpr h)]
        simp [List.removeAll, List.mem_map.mp h]
      · rw [if_neg (mt List.mem_eraseDups.mp h)]
        have hkept : [entry.1].removeAll (fields.map Prod.fst) = [entry.1] := by
          simpa [List.removeAll] using h
        rw [List.map_singleton, hkept, List.eraseDups_cons]
        rfl

example : settleFields [("b", 1), ("a", 2), ("b", 3)] = [("b", 3), ("a", 2)] := by decide

/-- Settled fields have each name once. -/
theorem nodup_map_fst_settleFields (fields : List (α × β)) :
    ((settleFields fields).map Prod.fst).Nodup := by
  induction fields using List.reverseRecOn with
  | nil => exact List.nodup_nil
  | append_singleton fields entry ih =>
      rw [settleFields_append, map_fst_putField]
      split
      · exact ih
      · rename_i hnew
        exact ih.append (List.nodup_singleton _) (List.disjoint_singleton.mpr hnew)

end Names

namespace Checked

variable {α β : Type} {check : α → Checked β} {fields : List (String × α)}
  {entries : List (String × β)}

/-- The entries of a table that is valid are its fields, each of them checked. -/
theorem eachEntry_eq_valid :
    eachEntry check fields = valid entries ↔
      List.Forall₂ (fun field entry => field.1 = entry.1 ∧ check field.2 = valid entry.2) fields
        entries := by
  induction fields generalizing entries with
  | nil =>
      rw [List.forall₂_nil_left_iff]
      constructor
      · intro h
        cases h
        rfl
      · rintro rfl
        rfl
  | cons field rest ih =>
      rw [eachEntry, seq_map_eq_valid]
      constructor
      · rintro ⟨b, others, hb, hothers, rfl⟩
        exact .cons ⟨rfl, under_eq_valid.mp hb⟩ (ih.mp hothers)
      · intro h
        cases h with
        | cons hfirst hothers =>
            exact ⟨_, _, under_eq_valid.mpr hfirst.2, ih.mpr hothers, by rw [hfirst.1]⟩

theorem map_fst_of_eachEntry (h : eachEntry check fields = valid entries) :
    entries.map Prod.fst = fields.map Prod.fst := by
  have hall := eachEntry_eq_valid.mp h
  clear h
  induction hall with
  | nil => rfl
  | cons hfirst _ ih => rw [List.map_cons, List.map_cons, ih, hfirst.1]

/-- Every field of a table is checked, also one whose name comes again. -/
theorem exists_valid_of_eachEntry (h : eachEntry check fields = valid entries) :
    ∀ field ∈ fields, ∃ b, check field.2 = valid b :=
  ((List.forall₂_and_left _ _).mp ((eachEntry_eq_valid.mp h).imp fun _ entry hentry =>
    ⟨⟨entry.2, hentry.2⟩, hentry⟩)).1

end Checked

namespace JsonCheck

variable {α : Type} {check : JsonCheck α} {json : Json}

theorem valid_of_required {name : String} {a : α} {value : Json}
    (h : required name check json = .valid a) (hfield : json.field? name = some value) :
    check value = .valid a := by
  obtain ⟨value', hvalue', hcheck⟩ := required_eq_valid.mp h
  rwa [Option.some.inj (hfield.symm.trans hvalue')]

/-- A field that is there is checked. -/
theorem valid_of_optional {name : String} {default a : α} {value : Json}
    (h : optional name default check json = .valid a) (hfield : json.field? name = some value) :
    check value = .valid a := by
  rcases optional_eq_valid.mp h with ⟨hnone, -⟩ | ⟨value', hvalue', hcheck⟩
  · rw [hnone] at hfield
    cases hfield
  · rwa [Option.some.inj (hfield.symm.trans hvalue')]

theorem table_eq_valid {entries : List (String × α)} :
    table check json = .valid entries ↔
      ∃ fields checked, json = .object fields ∧
        Checked.eachEntry check fields = .valid checked ∧ settleFields checked = entries := by
  cases json with
  | object fields =>
      have hmap : table check (.object fields)
          = settleFields <$> Checked.eachEntry check fields := rfl
      rw [hmap, Checked.map_eq_valid]
      simp
  | _ => simp [table, Checked.refuse]

end JsonCheck

namespace Intake

open JsonCheck (required optional table)

/-! ### Attempts -/

/-- The providers that were tried, as they are written. -/
def attemptNames (element : Json) : List String :=
  match element.field? "retrievalAttempts" with
  | some (.object fields) => fields.map Prod.fst
  | _ => []

/-- The attempts of a record are those of its element, each provider once and at its first place. -/
theorem RecordOf.map_fst_attempts {element : Json} {r : Record} (h : RecordOf element r) :
    r.attempts.map Prod.fst = (attemptNames element).eraseDups ∧
      (r.attempts.map Prod.fst).Nodup := by
  unfold attemptNames
  rcases JsonCheck.optional_eq_valid.mp h.attempts with ⟨hnone, hnil⟩ | ⟨value, hvalue, htable⟩
  · rw [hnone, ← hnil]
    exact ⟨rfl, List.nodup_nil⟩
  · obtain ⟨fields, checked, rfl, hchecked, hsettled⟩ := JsonCheck.table_eq_valid.mp htable
    rw [hvalue, ← hsettled]
    refine ⟨?_, nodup_map_fst_settleFields checked⟩
    rw [map_fst_settleFields, Checked.map_fst_of_eachEntry hchecked]

/-! ### What no record has -/

/-- A span of time that is written, but that is out of range. -/
def IsTooLong : Json → Prop
  | .number n => Duration.ofNanoseconds? n = none
  | .string s => ∃ w : WrittenDuration, w.text = Duration.core s ∧
      Duration.ofNanoseconds? (.double w.nanoseconds) = none
  | _ => False

theorem duration_of_isTooLong {value : Json} (h : IsTooLong value) (d : Duration) :
    duration value ≠ .valid d := by
  intro hd
  unfold duration at hd
  cases value with
  | number n =>
      have hnone : Duration.ofNanoseconds? n = none := h
      dsimp only at hd
      have herror : ∃ e, durationOfNumber n = .error e := by
        unfold durationOfNumber
        dsimp only
        split
        · exact ⟨_, rfl⟩
        · rw [hnone]
          exact ⟨_, rfl⟩
      obtain ⟨e, he⟩ := herror
      rw [he] at hd
      cases hd
  | string s =>
      obtain ⟨w, hw, hnone⟩ := h
      dsimp only at hd
      rw [Duration.ofText_text hw, hnone] at hd
      cases hd
  | _ => exact h

/-- The fields of an element with a number that must not be negative. -/
def countNames : List String :=
  ["bandwidth", "bytesTransferred", "indexerCandidatesReceived", "indexerCandidatesFiltered"]

/-- The fields of an element with a span of time. -/
def spanNames : List String := ["timeToFirstByte", "timeToFirstIndexerResult"]

/-- The fields of an element with a point in time. -/
def timeNames : List String := ["startTime", "endTime"]

/-- Something in an element that no record may have. -/
inductive Violates (element : Json) : Prop
  | count {name : String} {value : Json} {n : Int} (hname : name ∈ countNames)
      (hfield : element.field? name = some value) (hvalue : value.scalar.asInteger = .valid n)
      (hneg : n < 0)
  | span {name : String} {value : Json} (hname : name ∈ spanNames)
      (hfield : element.field? name = some value) (hvalue : IsTooLong value)
  | attempt {fields : List (String × Json)} {provider : String} {attempt value : Json}
      (hfield : element.field? "retrievalAttempts" = some (.object fields))
      (hattempt : (provider, attempt) ∈ fields)
      (hspan : attempt.field? "timeToFirstByte" = some value) (hvalue : IsTooLong value)
  | time {name s : String} (hname : name ∈ timeNames)
      (hfield : element.field? name = some (.string s)) (hvalue : Timestamp.IsNaive s.toList)
  | unnamed {value : Json} (hsuccess : element.field? "success" = some value)
      (hvalue : truth value = .valid true)
      (hprovider : element.field? "storageProviderId" = none ∨
        element.field? "storageProviderId" = some (.string ""))

theorem count_of_negative {value : Json} {n : Int} (h : value.scalar.asInteger = .valid n)
    (hneg : n < 0) (m : Int) : count value ≠ .valid m := by
  intro hm
  unfold count Scalar.asIntegerFrom at hm
  rw [h] at hm
  simp only [Checked.andThen, if_pos hneg] at hm
  cases hm

theorem attempt_of_isTooLong {json value : Json}
    (hspan : json.field? "timeToFirstByte" = some value) (hvalue : IsTooLong value) (a : Attempt) :
    attempt json ≠ .valid a := by
  intro h
  unfold attempt at h
  obtain ⟨-, hfields⟩ := JsonCheck.object_eq_valid.mp h
  obtain ⟨_, firstByte, -, hfirstByte, -⟩ := Checked.seq_eq_valid.mp hfields
  exact duration_of_isTooLong hvalue _ (JsonCheck.valid_of_optional hfirstByte hspan)

/-- An element with such a thing says no record. -/
theorem Violates.not_recordOf {element : Json} (h : Violates element) (r : Record) :
    ¬RecordOf element r := by
  intro hr
  cases h with
  | count hname hfield hvalue hneg =>
      have hcount := count_of_negative hvalue hneg
      simp only [countNames, List.mem_cons, List.not_mem_nil, or_false] at hname
      rcases hname with rfl | rfl | rfl | rfl
      · exact hcount _ (JsonCheck.valid_of_optional hr.bandwidth hfield)
      · exact hcount _ (JsonCheck.valid_of_optional hr.bytes hfield)
      · exact hcount _ (JsonCheck.valid_of_optional hr.candidates hfield)
      · exact hcount _ (JsonCheck.valid_of_optional hr.filtered hfield)
  | span hname hfield hvalue =>
      have hspan := duration_of_isTooLong hvalue
      simp only [spanNames, List.mem_cons, List.not_mem_nil, or_false] at hname
      rcases hname with rfl | rfl
      · exact hspan _ (JsonCheck.valid_of_optional hr.firstByte hfield)
      · exact hspan _ (JsonCheck.valid_of_optional hr.firstCandidate hfield)
  | attempt hfield hattempt hspan hvalue =>
      have htable := JsonCheck.valid_of_optional hr.attempts hfield
      obtain ⟨fields, checked, hobject, hchecked, -⟩ := JsonCheck.table_eq_valid.mp htable
      cases hobject
      obtain ⟨a, ha⟩ := Checked.exists_valid_of_eachEntry hchecked _ hattempt
      exact attempt_of_isTooLong hspan hvalue a ha
  | time hname hfield hvalue =>
      have htime : ∀ t, timestamp (.string _) ≠ .valid t := fun t ht => by
        rw [timestamp_naive hvalue] at ht
        cases ht
      simp only [timeNames, List.mem_cons, List.not_mem_nil, or_false] at hname
      rcases hname with rfl | rfl
      · exact htime _ (JsonCheck.valid_of_required hr.start hfield)
      · exact htime _ (JsonCheck.valid_of_required hr.finish hfield)
  | unnamed hsuccess hvalue hprovider =>
      have htruth := JsonCheck.valid_of_required hr.success hsuccess
      rw [hvalue] at htruth
      refine hr.named (Checked.valid.inj htruth).symm ?_
      rcases hprovider with hnone | hempty
      · rcases JsonCheck.optional_eq_valid.mp hr.provider with ⟨-, hdefault⟩ | ⟨_, hsome, -⟩
        · exact hdefault.symm
        · rw [hnone] at hsome
          cases hsome
      · have htext := JsonCheck.valid_of_optional hr.provider hempty
        exact (Checked.valid.inj htext).symm

/-! ### Batches -/

/-- The body is an object with these elements. -/
def Posts (body : ByteArray) (elements : List Json) : Prop :=
  ∃ json, Json.ofBytes? .strict body = some json ∧ json.field? "events" = some (.array elements)

/-- What a record owes its element, and what everything after it relies on. -/
structure Delivers (element : Json) (r : Record) : Prop where
  recordOf : RecordOf element r
  wellFormed : r.WellFormed
  start : ∃ value, element.field? "startTime" = some value ∧ IsAware value r.start
  finish : ∃ value, element.field? "endTime" = some value ∧ IsAware value r.finish
  distinct : (r.attempts.map Prod.fst).Nodup
  order : r.attempts.map Prod.fst = (attemptNames element).eraseDups

theorem delivers_of_record {element : Json} {r : Record} (h : record element = .valid r) :
    Delivers element r := by
  have hrecord := record_eq_valid.mp h
  obtain ⟨startValue, hstartField, hstart⟩ := JsonCheck.required_eq_valid.mp hrecord.start
  obtain ⟨finishValue, hfinishField, hfinish⟩ := JsonCheck.required_eq_valid.mp hrecord.finish
  obtain ⟨horder, hdistinct⟩ := hrecord.map_fst_attempts
  exact
    { recordOf := hrecord
      wellFormed := record_wellFormed h
      start := ⟨startValue, hstartField, timestamp_isAware hstart⟩
      finish := ⟨finishValue, hfinishField, timestamp_isAware hfinish⟩
      distinct := hdistinct
      order := horder }

/-- A body that is accepted has one record for each element, in order, and every record is well formed
and what its element says.  A body with an element that says what no record may have is refused as a
whole. -/
theorem records_delivered (body : ByteArray) :
    (∀ rs, records body = .ok rs →
      ∃ elements, Posts body elements ∧ List.Forall₂ Delivers elements rs) ∧
    (∀ elements, Posts body elements → (∃ element ∈ elements, Violates element) →
      ∃ problems, records body = .error problems) := by
  constructor
  · intro rs h
    obtain ⟨json, elements, hjson, hfield, hrecords⟩ := batch_eq_ok.mp h
    exact ⟨elements, ⟨json, hjson, hfield⟩, hrecords.imp fun _ _ => delivers_of_record⟩
  · rintro elements ⟨json, hjson, hfield⟩ ⟨element, helement, hviolates⟩
    cases h : records body with
    | error problems => exact ⟨problems, rfl⟩
    | ok rs =>
        obtain ⟨json', elements', hjson', hfield', hrecords⟩ := batch_eq_ok.mp h
        cases Option.some.inj (hjson.symm.trans hjson')
        cases Option.some.inj (hfield.symm.trans hfield')
        have hall : ∀ element ∈ elements, ∃ r, record element = .valid r :=
          ((List.forall₂_and_left _ _).mp (hrecords.imp fun _ r hr => ⟨⟨r, hr⟩, hr⟩)).1
        obtain ⟨r, hr⟩ := hall element helement
        exact absurd (record_eq_valid.mp hr) (hviolates.not_recordOf r)

set_option maxRecDepth 4000 in
/-- Behind a success with two providers, of which one was tried twice, comes a record that gives no more
than it has to.  The same batch is refused if the second element has a negative bandwidth, a span that
is too long, such a span in an attempt that is tried again, a naive start, or a success without a
provider. -/
theorem records_delivered_or_refused :
    let body : String → ByteArray := fun more =>
      ("\x7b\"events\":[
          \x7b\"retrievalId\":\"00000000000000000000000000000001\",\"instanceId\":\"i\",
            \"success\":true,\"storageProviderId\":\"q\",\"bandwidth\":7,\"bytesTransferred\":3,
            \"startTime\":\"1970-01-01T01:00:00+01:00\",\"endTime\":\"1970-01-01T00:00:03Z\",
            \"timeToFirstByte\":\"1.5s\",\"timeToFirstIndexerResult\":-2000,
            \"retrievalAttempts\":\x7b\"q\":\x7b\"error\":\"e\",\"timeToFirstByte\":\"1ms\"\x7d,
              \"p\":\x7b\x7d,\"q\":\x7b\"timeToFirstByte\":2000000\x7d\x7d\x7d,
          \x7b\"retrievalId\":\"00000000000000000000000000000002\",\"instanceId\":\"j\",
            \"endTime\":1," ++ more ++ "\x7d]\x7d").toUTF8
    let first : Record :=
      { retrieval := ⟨1⟩, instanceId := "i", success := true, provider := "q", bandwidth := 7,
        bytes := 3, start := ⟨0, 60⟩, finish := ⟨3000000, 0⟩, firstByte := ⟨1500000⟩,
        firstCandidate := ⟨-2⟩,
        attempts := [("q", { firstByte := ⟨2000⟩ }), ("p", {})] }
    let second : Record :=
      { retrieval := ⟨2⟩, instanceId := "j", success := false, start := ⟨0, 0⟩,
        finish := ⟨1000000, 0⟩ }
    let accepted : ByteArray := body "\"success\":false,\"startTime\":0"
    (records accepted = .ok [first, second] ∧
      ∃ elements, Posts accepted elements ∧ List.Forall₂ Delivers elements [first, second]) ∧
    ∀ more ∈ ["\"success\":false,\"startTime\":0,\"bandwidth\":-1",
        "\"success\":false,\"startTime\":0,\"timeToFirstByte\":\"24000000000h\"",
        "\"success\":false,\"startTime\":0,\"retrievalAttempts\":
          \x7b\"p\":\x7b\"timeToFirstByte\":100000000000000000000000\x7d,\"p\":\x7b\x7d\x7d",
        "\"success\":false,\"startTime\":\"1970-01-01T00:00:00\"",
        "\"success\":true,\"startTime\":0"],
      ∃ problems, records (body more) = .error problems := by
  intro body first second accepted
  -- What is read is given in full; the bodies differ in the last fields of the second element only.
  let element : List (String × Json) → Json := fun more =>
    .object ([("retrievalId", .string "00000000000000000000000000000002"),
      ("instanceId", .string "j"), ("endTime", .number (.int 1))] ++ more)
  let posted : List (String × Json) → List Json := fun more =>
    [.object
      [("retrievalId", .string "00000000000000000000000000000001"), ("instanceId", .string "i"),
        ("success", .bool true), ("storageProviderId", .string "q"), ("bandwidth", .number (.int 7)),
        ("bytesTransferred", .number (.int 3)),
        ("startTime", .string "1970-01-01T01:00:00+01:00"),
        ("endTime", .string "1970-01-01T00:00:03Z"), ("timeToFirstByte", .string "1.5s"),
        ("timeToFirstIndexerResult", .number (.int (-2000))),
        ("retrievalAttempts", .object
          [("q", .object [("error", .string "e"), ("timeToFirstByte", .string "1ms")]),
            ("p", .object []), ("q", .object [("timeToFirstByte", .number (.int 2000000))])])],
      element more]
  have hfield : ∀ json : Json, (Json.object [("events", json)]).field? "events" = some json :=
    fun json => by simp [Json.field?, lastField?]
  let failed : List (String × Json) := [("success", .bool false), ("startTime", .number (.int 0))]
  constructor
  · have hread : Json.ofBytes? .strict accepted = some (.object [("events", .array (posted failed))]) :=
      (ofBytes?_ofList_append .strict _ _ _).trans (by decide +kernel)
    have haccepted : records accepted = .ok [first, second] :=
      batch_eq_ok.mpr ⟨_, _, hread, hfield _,
        .cons (by decide +kernel) (.cons (by decide +kernel) .nil)⟩
    obtain ⟨elements, hposts, hdelivers⟩ := (records_delivered accepted).1 _ haccepted
    exact ⟨haccepted, elements, hposts, hdelivers⟩
  · have hrefused : ∀ {sent : ByteArray} (more : List (String × Json)),
        Json.ofBytes? .strict sent = some (.object [("events", .array (posted more))]) →
        Violates (element more) → ∃ problems, records sent = .error problems :=
      fun more hread hviolates => (records_delivered _).2 _ ⟨_, hread, hfield _⟩
        ⟨_, List.mem_cons_of_mem _ (List.mem_singleton_self _), hviolates⟩
    intro more hmore
    simp only [List.mem_cons, List.not_mem_nil, or_false] at hmore
    rcases hmore with rfl | rfl | rfl | rfl | rfl
    · refine hrefused (failed ++ [("bandwidth", .number (.int (-1)))])
        ((ofBytes?_ofList_append .strict _ _ _).trans (by decide +kernel)) ?_
      exact @Violates.count _ "bandwidth" (.number (.int (-1))) (-1) (by decide) (by decide +kernel) rfl
        (by decide)
    · refine hrefused (failed ++ [("timeToFirstByte", .string "24000000000h")])
        ((ofBytes?_ofList_append .strict _ _ _).trans (by decide +kernel)) ?_
      let hours : WrittenDuration := ⟨none, [⟨⟨'2' :: '4' :: List.replicate 9 '0', [], .hour⟩, false,
        ['h'], List.all_eq_true.mp rfl, by decide, by decide, by decide⟩]⟩
      have htooLong : IsTooLong (.string "24000000000h") :=
        ⟨hours, by decide +kernel, by decide +kernel⟩
      exact .span (by decide : "timeToFirstByte" ∈ spanNames) (by decide +kernel) htooLong
    · let long : Json := .object [("timeToFirstByte", .number (.int (10 ^ 23)))]
      refine hrefused (failed ++ [("retrievalAttempts", .object [("p", long), ("p", .object [])])])
        ((ofBytes?_ofList_append .strict _ _ _).trans (by decide +kernel)) ?_
      have htooLong : IsTooLong (.number (.int (10 ^ 23))) := by
        show Duration.ofNanoseconds? (.int (10 ^ 23)) = none
        decide +kernel
      exact @Violates.attempt _ [("p", long), ("p", .object [])] "p" long _ (by decide +kernel)
        List.mem_cons_self (by decide +kernel) htooLong
    · refine hrefused [("success", .bool false), ("startTime", .string "1970-01-01T00:00:00")]
        ((ofBytes?_ofList_append .strict _ _ _).trans (by decide +kernel)) ?_
      have hnaive : Timestamp.IsNaive "1970-01-01T00:00:00".toList :=
        Or.inr ⟨⟨1970, 1, 1⟩, 0, 'T', "00:00:00".toList, by decide +kernel, Or.inl rfl,
          by decide +kernel⟩
      exact .time (by decide : "startTime" ∈ timeNames) (by decide +kernel) hnaive
    · refine hrefused [("success", .bool true), ("startTime", .number (.int 0))]
        ((ofBytes?_ofList_append .strict _ _ _).trans (by decide +kernel)) ?_
      exact .unnamed (by decide +kernel : _ = some (.bool true)) rfl (Or.inl (by decide +kernel))

end Intake

end RetrievalTelemetry
