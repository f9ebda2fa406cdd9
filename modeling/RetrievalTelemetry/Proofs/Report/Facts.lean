/-
What the facts of a retrieval say about its events.

The report reads its log once and keeps a few facts for each retrieval.  Each of them answers a
question about the events of that retrieval alone: when the earliest one was, whether any was an
attempt over a transport, which success was the earliest, which first bytes there were.
`Gathered` lists the answers.  It survives every event that is noted, so it holds of the whole
log, however the events of other retrievals are mixed in.

The facts are kept in the order in which the retrievals appear.  No total depends on that order,
so `facts_perm` lists them in whatever order the retrievals are listed in.
-/
import Mathlib.Data.List.Dedup
import Mathlib.Data.List.Induction
import RetrievalTelemetry.Report.Basic

namespace RetrievalTelemetry

/-! ### The earliest of several events -/

namespace Event

/-- The events of a log that belong to a retrieval, in the order of the log. -/
def ofRetrieval (id : Uuid) (log : List Event) : List Event :=
  log.filter fun e => e.retrieval = id

/-- The retrievals of a log, each once. -/
def ids (log : List Event) : List Uuid := (log.map Event.retrieval).dedup

theorem ofRetrieval_eq_nil_iff {id : Uuid} {log : List Event} :
    ofRetrieval id log = [] ↔ id ∉ ids log := by
  unfold ofRetrieval ids
  rw [List.filter_eq_nil_iff, List.mem_dedup, List.mem_map]
  simp

/-- Whether an event is an attempt over a transport; those of the indexer are none. -/
def tries (t : Transport) (e : Event) : Bool :=
  e.phase ≠ .indexer && Transport.ofProvider e.provider = t

def isSuccess (e : Event) : Bool := e.code = .success

def isFirstByte (e : Event) : Bool := e.code = .firstByte

/-- The earlier one of two events, and of equally early ones the first. -/
def earlierOf (best : Option Event) (e : Event) : Option Event :=
  match best with
  | none => some e
  | some b => if e.time.isBefore b.time then some e else some b

/-- The earliest one of several events, and of equally early ones the first in the list. -/
def earliest? (events : List Event) : Option Event := events.foldl earlierOf none

theorem earliest?_concat (events : List Event) (e : Event) :
    earliest? (events ++ [e]) = earlierOf (earliest? events) e :=
  List.foldl_concat ..

/-- Of two events, one is the earlier one. -/
theorem earlierOf_cases (best : Option Event) (e : Event) :
    (earlierOf best e = some e ∧ ∀ b ∈ best, e.time.micros < b.time.micros) ∨
      ∃ b, best = some b ∧ earlierOf best e = some b ∧ b.time.micros ≤ e.time.micros := by
  cases best with
  | none => exact Or.inl ⟨rfl, by simp⟩
  | some b =>
      unfold earlierOf Timestamp.isBefore
      by_cases hbefore : e.time.micros < b.time.micros
      · exact Or.inl ⟨by simp [hbefore], by simpa using hbefore⟩
      · exact Or.inr ⟨b, rfl, by simp [hbefore], by omega⟩

theorem earliest?_eq_none_iff {events : List Event} : earliest? events = none ↔ events = [] := by
  constructor
  · intro h
    cases events using List.reverseRecOn with
    | nil => rfl
    | append_singleton front e =>
        rw [earliest?_concat] at h
        rcases earlierOf_cases (earliest? front) e with ⟨hnew, -⟩ | ⟨b, -, hold, -⟩
        · rw [h] at hnew
          cases hnew
        · rw [h] at hold
          cases hold
  · rintro rfl
    rfl

theorem exists_earliest {events : List Event} {e : Event} (h : e ∈ events) :
    ∃ b, earliest? events = some b := by
  rw [← Option.ne_none_iff_exists']
  intro hnone
  rw [earliest?_eq_none_iff.mp hnone] at h
  cases h

/-- The earliest event is one of them, and none is before it. -/
theorem earliest?_spec {events : List Event} {e : Event} (h : earliest? events = some e) :
    e ∈ events ∧ ∀ x ∈ events, e.time.micros ≤ x.time.micros := by
  induction events using List.reverseRecOn generalizing e with
  | nil => cases h
  | append_singleton events last ih =>
      rw [earliest?_concat] at h
      rcases earlierOf_cases (earliest? events) last with ⟨hnew, hbefore⟩ | ⟨b, hb, hold, hle⟩
      · rw [h] at hnew
        cases hnew
        refine ⟨by simp, fun x hx => ?_⟩
        rcases List.mem_append.mp hx with hx | hx
        · obtain ⟨b, hb⟩ := exists_earliest hx
          have hbx := (ih hb).2 x hx
          have heb := hbefore b hb
          omega
        · obtain rfl := List.mem_singleton.mp hx
          exact Int.le_refl _
      · rw [h] at hold
        cases hold
        obtain ⟨hmem, hall⟩ := ih hb
        refine ⟨List.mem_append_left _ hmem, fun x hx => ?_⟩
        rcases List.mem_append.mp hx with hx | hx
        · exact hall x hx
        · rw [List.mem_singleton.mp hx]
          exact hle

/-- In a list in the order of time, the earliest event is the first one. -/
theorem earliest?_of_pairwise {events : List Event}
    (h : events.Pairwise fun a b => a.time.micros ≤ b.time.micros) :
    earliest? events = events.head? := by
  induction events using List.reverseRecOn with
  | nil => rfl
  | append_singleton events last ih =>
      obtain ⟨hevents, -, hle⟩ := List.pairwise_append.mp h
      rw [earliest?_concat, ih hevents, List.head?_append]
      cases events with
      | nil => rfl
      | cons first rest =>
          have hfirst := hle first (by simp) last (by simp)
          simp [earlierOf, Timestamp.isBefore, Int.not_lt.mpr hfirst]

end Event

/-! ### One retrieval -/

namespace RetrievalFacts

open Event (tries isSuccess isFirstByte earlierOf earliest? ofRetrieval)

/-- What an event makes of each of the facts. -/
theorem note_eq (f : RetrievalFacts) (e : Event) :
    f.note e =
      { begin := if e.time.isBefore f.begin then e.time else f.begin
        bitswap := f.bitswap || e.tries .bitswap
        graphsync := f.graphsync || e.tries .graphsync
        pastQuery := f.pastQuery || (e.tries .graphsync && e.phase = .retrieval)
        success := if e.isSuccess then earlierOf f.success e else f.success
        firstBytes := if e.isFirstByte then f.firstBytes ++ [e] else f.firstBytes } := by
  have htransport : ∀ g : RetrievalFacts, g.noteTransport e =
      { g with
        bitswap := g.bitswap || e.tries .bitswap
        graphsync := g.graphsync || e.tries .graphsync
        pastQuery := g.pastQuery || (e.tries .graphsync && e.phase = .retrieval) } := by
    intro g
    unfold noteTransport tries Transport.ofProvider
    by_cases hindexer : e.phase = .indexer
    · simp [hindexer]
    · cases hagnostic : Transport.isAgnostic e.provider <;> simp [hindexer]
  have hcode : ∀ g : RetrievalFacts, g.noteCode e =
      { g with
        success := if e.isSuccess then earlierOf g.success e else g.success
        firstBytes := if e.isFirstByte then g.firstBytes ++ [e] else g.firstBytes } := by
    intro g
    unfold noteCode isSuccess isFirstByte
    cases e.code with
    | success =>
        obtain ⟨begin, bitswap, graphsync, pastQuery, success, firstBytes⟩ := g
        cases success with
        | none => rfl
        | some earlier =>
            simp only [earlierOf, decide_true, if_true]
            split <;> rfl
    | _ => rfl
  unfold note
  rw [hcode, htransport]
  split <;> rfl

/-- What the facts say about the events that they were gathered from. -/
structure Gathered (events : List Event) (f : RetrievalFacts) : Prop where
  begin_mem : ∃ e ∈ events, f.begin = e.time
  begin_le : ∀ e ∈ events, f.begin.micros ≤ e.time.micros
  bitswap : f.bitswap = events.any (tries .bitswap)
  graphsync : f.graphsync = events.any (tries .graphsync)
  pastQuery : f.pastQuery = events.any fun e => e.tries .graphsync && e.phase = .retrieval
  success : f.success = earliest? (events.filter isSuccess)
  firstBytes : f.firstBytes = events.filter isFirstByte

theorem gathered_singleton (e : Event) : Gathered [e] ((ofEvent e).note e) := by
  have hbegin : (if e.time.isBefore (ofEvent e).begin then e.time else (ofEvent e).begin)
      = e.time := ite_self _
  rw [note_eq, hbegin]
  refine ⟨⟨e, by simp, rfl⟩, by simp, ?_, ?_, ?_, ?_, ?_⟩
  · simp [ofEvent]
  · simp [ofEvent]
  · simp [ofEvent]
  · by_cases h : e.isSuccess
    · simp [ofEvent, h, earliest?]
    · simp [ofEvent, h, earliest?]
  · by_cases h : e.isFirstByte
    · simp [ofEvent, h]
    · simp [ofEvent, h]

theorem Gathered.note {events : List Event} {f : RetrievalFacts} (h : Gathered events f)
    (e : Event) : Gathered (events ++ [e]) (f.note e) := by
  rw [note_eq]
  refine ⟨?_, ?_, ?_, ?_, ?_, ?_, ?_⟩
  · obtain ⟨first, hmem, hbegin⟩ := h.begin_mem
    dsimp only
    split
    · exact ⟨e, by simp, rfl⟩
    · exact ⟨first, List.mem_append_left _ hmem, hbegin⟩
  · intro x hx
    have hbefore : e.time.isBefore f.begin = decide (e.time.micros < f.begin.micros) := rfl
    dsimp only
    rw [hbefore]
    rcases List.mem_append.mp hx with hx | hx
    · have hle := h.begin_le x hx
      by_cases hlt : e.time.micros < f.begin.micros
      · simp only [hlt, decide_true, if_true]
        omega
      · simpa [hlt] using hle
    · rw [List.mem_singleton.mp hx]
      by_cases hlt : e.time.micros < f.begin.micros
      · simp [hlt]
      · simp only [hlt, decide_false, Bool.false_eq_true, if_false]
        omega
  · simp [h.bitswap]
  · simp [h.graphsync]
  · simp [h.pastQuery]
  · rw [List.filter_append, h.success]
    by_cases hsuccess : e.isSuccess
    · rw [if_pos hsuccess, List.filter_cons_of_pos hsuccess, List.filter_nil,
        Event.earliest?_concat]
    · rw [if_neg hsuccess, List.filter_cons_of_neg hsuccess, List.filter_nil, List.append_nil]
  · rw [List.filter_append, h.firstBytes]
    by_cases hfirst : e.isFirstByte
    · rw [if_pos hfirst, List.filter_cons_of_pos hfirst, List.filter_nil]
    · rw [if_neg hfirst, List.filter_cons_of_neg hfirst, List.filter_nil, List.append_nil]

/-- The facts of a retrieval with these events; none if there are none. -/
def ofEvents? (events : List Event) : Option RetrievalFacts :=
  events.foldl (fun f e => some ((f.getD (ofEvent e)).note e)) none

theorem ofEvents?_concat (events : List Event) (e : Event) :
    ofEvents? (events ++ [e]) = some (((ofEvents? events).getD (ofEvent e)).note e) :=
  List.foldl_concat ..

theorem ofEvents?_eq_none_iff {events : List Event} : ofEvents? events = none ↔ events = [] := by
  constructor
  · intro h
    cases events using List.reverseRecOn with
    | nil => rfl
    | append_singleton front e =>
        rw [ofEvents?_concat] at h
        cases h
  · rintro rfl
    rfl

theorem gathered_ofEvents? {events : List Event} {f : RetrievalFacts}
    (h : ofEvents? events = some f) : Gathered events f := by
  induction events using List.reverseRecOn generalizing f with
  | nil => cases h
  | append_singleton events e ih =>
      rw [ofEvents?_concat] at h
      cases hfacts : ofEvents? events with
      | none =>
          rw [hfacts] at h
          cases h
          rw [ofEvents?_eq_none_iff.mp hfacts]
          exact gathered_singleton e
      | some f =>
          rw [hfacts] at h
          cases h
          exact (ih hfacts).note e

end RetrievalFacts

/-! ### Fields that are put -/

section Fields

variable {α β : Type} [BEq α] [LawfulBEq α]

theorem lookup_putField_self (key : α) (value : β) (l : List (α × β)) :
    (putField key value l).lookup key = some value := by
  induction l with
  | nil => simp [putField]
  | cons entry rest ih =>
      unfold putField
      by_cases hkey : entry.1 = key
      · simp [hkey]
      · have hbeq : (entry.1 == key) = false := by simpa using hkey
        have hbeq' : (key == entry.1) = false := by simpa using Ne.symm hkey
        rw [hbeq, if_neg (by simp), List.lookup_cons, hbeq']
        exact ih

theorem lookup_putField_ne {key key' : α} (hne : key' ≠ key) (value : β) (l : List (α × β)) :
    (putField key value l).lookup key' = l.lookup key' := by
  induction l with
  | nil =>
      have hbeq : (key' == key) = false := by simpa using hne
      simp [putField, List.lookup_cons, hbeq]
  | cons entry rest ih =>
      unfold putField
      by_cases hkey : entry.1 = key
      · have hbeq : (entry.1 == key) = true := by simpa using hkey
        have hbeq' : (key' == entry.1) = false := by simpa [hkey] using hne
        rw [hbeq, if_pos rfl, List.lookup_cons, List.lookup_cons, hbeq']
      · have hbeq : (entry.1 == key) = false := by simpa using hkey
        rw [hbeq, if_neg (by simp), List.lookup_cons, List.lookup_cons, ih]

/-- A field that is put keeps its place, or it comes behind all others. -/
theorem keys_putField (key : α) (value : β) (l : List (α × β)) :
    (putField key value l).map (·.1)
      = if key ∈ l.map (·.1) then l.map (·.1) else l.map (·.1) ++ [key] := by
  induction l with
  | nil => rfl
  | cons entry rest ih =>
      unfold putField
      by_cases hkey : entry.1 = key
      · simp [hkey]
      · have hbeq : (entry.1 == key) = false := by simpa using hkey
        rw [hbeq, if_neg (by simp), List.map_cons, List.map_cons, ih]
        by_cases hmem : key ∈ rest.map (·.1)
        · rw [if_pos hmem, if_pos (List.mem_cons_of_mem _ hmem)]
        · rw [if_neg hmem, if_neg (by simpa [Ne.symm hkey] using hmem)]
          rfl

theorem lookup_eq_some_of_mem {l : List (α × β)} (hkeys : (l.map (·.1)).Nodup) {entry : α × β}
    (h : entry ∈ l) : l.lookup entry.1 = some entry.2 := by
  obtain ⟨front, back, rfl⟩ := List.append_of_mem h
  rw [List.map_append, List.map_cons] at hkeys
  have hfront : entry.1 ∉ front.map (·.1) := fun hmem =>
    (List.nodup_append.mp hkeys).2.2 _ hmem _ List.mem_cons_self rfl
  refine List.lookup_eq_some_iff.mpr ⟨front, back, rfl, fun other hother => ?_⟩
  have hne : entry.1 ≠ other.1 := fun heq => hfront (heq ▸ List.mem_map_of_mem hother)
  simpa using hne

/-- The values of fields with different keys are those that the keys look up. -/
theorem map_snd_eq_filterMap {l : List (α × β)} (hkeys : (l.map (·.1)).Nodup) :
    l.map (·.2) = (l.map (·.1)).filterMap fun key => l.lookup key := by
  rw [List.filterMap_map, ← List.filterMap_eq_map']
  refine List.filterMap_congr fun entry hentry => ?_
  exact (lookup_eq_some_of_mem hkeys hentry).symm

end Fields

/-! ### The whole log -/

namespace RetrievalFacts

open Event (ofRetrieval)

theorem ofLog_concat (log : List Event) (e : Event) :
    ofLog (log ++ [e]) = putField e.retrieval
      ((((ofLog log).lookup e.retrieval).getD (ofEvent e)).note e) (ofLog log) :=
  List.foldl_concat ..

/-- The facts of a retrieval are those of its events. -/
theorem lookup_ofLog (log : List Event) (id : Uuid) :
    (ofLog log).lookup id = ofEvents? (ofRetrieval id log) := by
  induction log using List.reverseRecOn with
  | nil => rfl
  | append_singleton log e ih =>
      have hfilter : ofRetrieval id (log ++ [e])
          = ofRetrieval id log ++ if e.retrieval = id then [e] else [] := by
        unfold ofRetrieval
        rw [List.filter_append]
        by_cases hid : e.retrieval = id <;> simp [hid]
      rw [ofLog_concat, hfilter]
      by_cases hid : e.retrieval = id
      · rw [hid, lookup_putField_self, if_pos rfl, ofEvents?_concat, ih]
      · rw [lookup_putField_ne (Ne.symm hid), if_neg hid, List.append_nil, ih]

/-- Each retrieval of the log has one entry. -/
theorem keys_ofLog (log : List Event) : ((ofLog log).map (·.1)).Perm (Event.ids log) := by
  have hspec : ((ofLog log).map (·.1)).Nodup ∧
      ∀ id, id ∈ (ofLog log).map (·.1) ↔ id ∈ log.map Event.retrieval := by
    induction log using List.reverseRecOn with
    | nil => exact ⟨List.nodup_nil, by simp [ofLog]⟩
    | append_singleton log e ih =>
        obtain ⟨hnodup, hmem⟩ := ih
        rw [ofLog_concat, keys_putField, List.map_append]
        split
        · rename_i hold
          refine ⟨hnodup, fun id => ?_⟩
          rw [List.mem_append, ← hmem]
          simp only [List.map_cons, List.map_nil, List.mem_singleton]
          constructor
          · exact Or.inl
          · rintro (hmem | rfl)
            · exact hmem
            · exact hold
        · rename_i hnew
          refine ⟨?_, fun id => ?_⟩
          · rw [← List.concat_eq_append]
            exact hnodup.concat hnew
          · rw [List.mem_append, List.mem_append, ← hmem]
            rfl
  unfold Event.ids
  rw [List.perm_ext_iff_of_nodup hspec.1 (List.nodup_dedup _)]
  intro id
  rw [hspec.2, List.mem_dedup]

/-- The facts of all retrievals, in whatever order the retrievals are listed. -/
theorem facts_perm (log : List Event) {ids : List Uuid} (hids : (Event.ids log).Perm ids) :
    ((ofLog log).map (·.2)).Perm (ids.filterMap fun id => ofEvents? (ofRetrieval id log)) := by
  have hkeys := keys_ofLog log
  have hnodup : ((ofLog log).map (·.1)).Nodup := hkeys.nodup_iff.mpr (List.nodup_dedup _)
  rw [map_snd_eq_filterMap hnodup]
  simp only [lookup_ofLog]
  exact (hkeys.trans hids).filterMap _

/-- The facts that pass a test are counted by the retrievals whose events do. -/
theorem countP_ofLog (log : List Event) {p : RetrievalFacts → Bool} {q : List Event → Bool}
    (hpq : ∀ events f, Gathered events f → p f = q events) :
    ((ofLog log).map (·.2)).countP p
      = (Event.ids log).countP fun id => q (ofRetrieval id log) := by
  rw [(facts_perm log (List.Perm.refl _)).countP_eq, List.countP_filterMap]
  refine List.countP_congr fun id hid => ?_
  cases hfacts : ofEvents? (ofRetrieval id log) with
  | none =>
      have hnil := ofEvents?_eq_none_iff.mp hfacts
      exact absurd hid (Event.ofRetrieval_eq_nil_iff.mp hnil)
  | some f =>
      have hp := hpq _ f (gathered_ofEvents? hfacts)
      simp [hp]

end RetrievalFacts

end RetrievalTelemetry
