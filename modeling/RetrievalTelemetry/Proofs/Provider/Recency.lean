/-
The cache holds what was used last.

An answer is used when the registry gives it and when it is found in the cache.  Both happen in the
middle of calls, and a call for several names goes on after answers were forgotten that it used itself.
So a run is taken apart into deeds, the looks into the cache and the questions to the registry, and
each of them may use one answer.  `Recent` says what the cache is, given all uses so far: the last
ones, of different providers, as many as it may hold.  What came of the requests so far is their
`verdicts`, and the failures are those that failed.  Every deed keeps both, whatever was done before, so
they hold between any two of them.
-/
import Mathlib.Data.List.Dedup
import Mathlib.Data.List.DropRight
import RetrievalTelemetry.Proofs.Provider.Workers

namespace RetrievalTelemetry

/-! ### The last of a list without repetitions -/

section Lists

variable {α : Type} [DecidableEq α]

theorem dedup_concat (l : List α) (a : α) :
    (l ++ [a]).dedup = (l.dedup.filter fun b => b ≠ a) ++ [a] := by
  induction l with
  | nil => simp
  | cons b l ih =>
      by_cases hb : b ∈ l
      · rw [List.cons_append, List.dedup_cons_of_mem (by simp [hb]), ih, List.dedup_cons_of_mem hb]
      · rw [List.dedup_cons_of_notMem hb]
        by_cases hab : b = a
        · subst hab
          rw [List.cons_append, List.dedup_cons_of_mem (by simp), ih,
            List.filter_cons_of_neg (by simp)]
        · rw [List.cons_append, List.dedup_cons_of_notMem (by simp [hb, hab]), ih,
            List.filter_cons_of_pos (by simpa using hab), List.cons_append]

/-- Leaving out one element costs the last ones at most one. -/
theorem rtake_filter {l : List α} (hl : l.Nodup) (a : α) (k : Nat) :
    ((l.rtake (k + 1)).filter fun b => b ≠ a).rtake k = (l.filter fun b => b ≠ a).rtake k := by
  unfold List.rtake
  by_cases hshort : l.length ≤ k + 1
  · rw [Nat.sub_eq_zero_of_le hshort, List.drop_zero]
  · obtain ⟨front, back, rfl, hback⟩ : ∃ front back, l = front ++ back ∧ back.length = k + 1 :=
      ⟨l.take (l.length - (k + 1)), l.drop (l.length - (k + 1)), (List.take_append_drop _ _).symm,
        by rw [List.length_drop]; omega⟩
    have hfront : (front ++ back).length - (k + 1) = front.length := by
      rw [List.length_append, hback, Nat.add_sub_cancel]
    have hkept : k ≤ (back.filter fun b => b ≠ a).length := by
      have hnodup := (List.nodup_append.mp hl).2.1
      have herase : back.erase a = back.filter fun b => b ≠ a := by
        rw [hnodup.erase_eq_filter]
        exact List.filter_congr fun b _ => Bool.eq_iff_iff.mpr (by simp)
      have hle : back.length - 1 ≤ (back.erase a).length := List.le_length_erase
      rwa [herase, hback, Nat.add_sub_cancel] at hle
    have hlength : (front.filter fun b => b ≠ a).length + (back.filter fun b => b ≠ a).length - k
        = (front.filter fun b => b ≠ a).length + ((back.filter fun b => b ≠ a).length - k) :=
      Nat.add_sub_assoc hkept _
    rw [hfront, List.drop_left, List.filter_append, List.length_append, hlength,
      List.drop_length_add_append]

end Lists

namespace Resolver

/-! ### Uses -/

/-- A use of an answer. -/
inductive Touch where
  /-- It was found in the cache. -/
  | hit (provider : String)
  /-- The registry gave it. -/
  | stored (provider answer : String)
deriving DecidableEq

namespace Touch

def provider : Touch → String
  | hit provider => provider
  | stored provider _ => provider

/-- The answer that was stored, if it was for this provider. -/
def answerFor? (provider : String) : Touch → Option String
  | hit _ => none
  | stored p answer => if p = provider then some answer else none

end Touch

/-- The providers used last, up to a number of them, the one that was not used for the longest time
first. -/
def lastUsed (count : Nat) (touches : List Touch) : List String :=
  (touches.map Touch.provider).dedup.rtake count

/-- The answer that was stored last for a provider. -/
def latest? (provider : String) (touches : List Touch) : Option String :=
  (touches.filterMap (Touch.answerFor? provider)).getLast?

/-- A cache holds what was used last. -/
structure Recent (capacity : Nat) (touches : List Touch) (cache : List (String × String)) : Prop where
  providers : cache.map (·.1) = lastUsed capacity touches
  answers : ∀ entry ∈ cache, latest? entry.1 touches = some entry.2

theorem latest?_concat (provider : String) (touches : List Touch) (t : Touch) :
    latest? provider (touches ++ [t]) = (t.answerFor? provider).or (latest? provider touches) := by
  unfold latest?
  rw [List.filterMap_append]
  cases h : t.answerFor? provider with
  | none => simp [h]
  | some a => simp [h]

theorem lastUsed_concat (count : Nat) (touches : List Touch) (t : Touch) :
    lastUsed (count + 1) (touches ++ [t])
      = ((lastUsed (count + 1) touches).filter fun p => p ≠ t.provider).rtake count
        ++ [t.provider] := by
  unfold lastUsed
  rw [List.map_append, List.map_singleton, dedup_concat, List.rtake_concat_succ,
    rtake_filter (List.nodup_dedup _)]

/-- Of two providers the one that was used twice stays. -/
example : lastUsed 2 [.hit "a", .hit "b", .hit "a", .stored "c" "f01"] = ["a", "c"] := by decide

theorem Recent.length_le {capacity : Nat} {touches : List Touch} {cache : List (String × String)}
    (h : Recent capacity touches cache) : cache.length ≤ capacity := by
  rw [← List.length_map (f := (·.1)), h.providers, lastUsed, List.rtake, List.length_drop]
  omega

variable {r : Resolver}

/-- An answer that is kept was used last. -/
theorem Recent.keep {touches : List Touch} {t : Touch} {answer : String} (hcapacity : 0 < r.capacity)
    (h : Recent r.capacity touches r.cache)
    (ha : latest? t.provider (touches ++ [t]) = some answer) :
    Recent r.capacity (touches ++ [t]) (r.keep t.provider answer).cache := by
  obtain ⟨k, hk⟩ : ∃ k, r.capacity = k + 1 := ⟨r.capacity - 1, by omega⟩
  have hkeys : ((r.cache.filter fun entry => entry.1 ≠ t.provider).map (·.1))
      = (lastUsed r.capacity touches).filter fun p => p ≠ t.provider := by
    rw [← h.providers, List.filter_map]
    rfl
  constructor
  · unfold Resolver.keep
    dsimp only
    rw [List.map_drop, List.map_append, hkeys, List.map_singleton, hk, lastUsed_concat,
      ← List.rtake_concat_succ]
    unfold List.rtake
    rw [List.length_append, List.length_append, ← List.length_map (f := (·.1)), hkeys, hk]
    rfl
  · intro entry hentry
    rcases List.mem_append.mp (List.mem_of_mem_drop hentry) with hold | hnew
    · obtain ⟨hold, hother⟩ := List.mem_filter.mp hold
      have hne : entry.1 ≠ t.provider := of_decide_eq_true hother
      have hnone : t.answerFor? entry.1 = none := by
        cases t with
        | hit p => rfl
        | stored p a => exact if_neg (Ne.symm hne)
      rw [latest?_concat, hnone, Option.none_or]
      exact h.answers entry hold
    · rw [List.mem_singleton.mp hnew]
      exact ha

/-! ### Requests -/

/-- What comes of a request. -/
inductive Verdict where
  | answer (name : String)
  | failed
  /-- The reply is nested too deep to be read. -/
  | unread
deriving DecidableEq

/-- Whether the registry gave a definitive answer. -/
def Verdict.isAnswer : Verdict → Bool
  | answer _ => true
  | _ => false

/-- The names that a reply lists come to the first of them, or to an empty one. -/
def Verdict.ofNames : Except Json.ReadError (Option (List String)) → Verdict
  | .ok (some names) => .answer (names.head?.getD "")
  | .ok none => .failed
  | .error _ => .unread

/-- What comes of a request about a provider, given the number of earlier ones. -/
def verdict (r : Resolver) (provider : String) (earlier : Nat) : Verdict :=
  if (r.request? provider).any WebAddress.isComplete then .ofNames (r.registry provider earlier).names?
  else .failed

theorem verdict_of_complete {r : Resolver} {provider : String} {address : WebAddress}
    (haddress : r.request? provider = some address) (hcomplete : address.isComplete = true)
    (earlier : Nat) :
    r.verdict provider earlier = .ofNames (r.registry provider earlier).names? := by
  unfold verdict
  rw [haddress, Option.any_some, if_pos hcomplete]

/-- What comes of requests after earlier ones. -/
def verdictsAfter (r : Resolver) (earlier : List String) : List String → List Verdict
  | [] => []
  | provider :: rest =>
    r.verdict provider (earlier.count provider) :: r.verdictsAfter (earlier ++ [provider]) rest

/-- What comes of requests. -/
def verdicts (r : Resolver) (requests : List String) : List Verdict := r.verdictsAfter [] requests

theorem verdicts_concat (r : Resolver) (requests : List String) (provider : String) :
    r.verdicts (requests ++ [provider])
      = r.verdicts requests ++ [r.verdict provider (requests.count provider)] := by
  have hgeneral : ∀ earlier, r.verdictsAfter earlier (requests ++ [provider])
      = r.verdictsAfter earlier requests
        ++ [r.verdict provider ((earlier ++ requests).count provider)] := by
    induction requests with
    | nil =>
        intro earlier
        rw [List.append_nil]
        rfl
    | cons p rest ih =>
        intro earlier
        rw [List.cons_append, verdictsAfter, verdictsAfter, ih, List.append_assoc]
        rfl
  exact hgeneral []

/-- A lookup sends no request if there is no address for it. -/
theorem lookUp_none {provider : String} (h : r.request? provider = none) :
    (r.lookUp provider).2 = r := by
  unfold lookUp
  rw [h]

/-- What a lookup leaves behind that sends a request. -/
theorem lookUp_some {provider : String} (h : (r.request? provider).isSome = true) :
    (r.lookUp provider).2 =
      match r.verdict provider (r.requests.count provider) with
      | .answer name => { r with requests := r.requests ++ [provider] }.keep provider name
      | .failed => { r with requests := r.requests ++ [provider], failures := r.failures + 1 }
      | .unread => { r with requests := r.requests ++ [provider] } := by
  obtain ⟨address, haddress⟩ := Option.isSome_iff_exists.mp h
  unfold lookUp verdict ask Reply.answer?
  rw [haddress]
  dsimp only
  rw [Option.any_some]
  cases hcomplete : address.isComplete with
  | false => rfl
  | true =>
      simp only [if_true]
      cases (r.registry provider (r.requests.count provider)).names? with
      | error e => rfl
      | ok names => cases names <;> rfl

/-! ### Deeds -/

/-- A part of a call that uses one answer at most. -/
inductive Deed where
  /-- A look into the cache. -/
  | look (provider : String)
  /-- A question to the registry, whose answer is kept. -/
  | ask (provider : String)
  | close
deriving DecidableEq

def perform (r : Resolver) : Deed → Resolver
  | .look provider => (r.cached provider).2
  | .ask provider => (r.lookUp provider).2
  | .close => r.close

/-- The resolver after deeds in their order. -/
def after (r : Resolver) (deeds : List Deed) : Resolver := deeds.foldl perform r

/-- The answer that a deed uses: one in the cache, or one that the registry gives. -/
def touch? (r : Resolver) : Deed → Option Touch
  | .look provider => (r.cache.lookup provider).map fun _ => .hit provider
  | .ask provider =>
    match r.verdict provider (r.requests.count provider) with
    | .answer name => some (.stored provider name)
    | _ => none
  | .close => none

theorem touch?_look (r : Resolver) (provider : String) :
    r.touch? (.look provider) = (r.cache.lookup provider).map fun _ => .hit provider := rfl

theorem touch?_ask (r : Resolver) (provider : String) :
    r.touch? (.ask provider) =
      match r.verdict provider (r.requests.count provider) with
      | .answer name => some (.stored provider name)
      | _ => none := by
  unfold touch?
  dsimp only

/-- The answers that deeds use. -/
def touches (r : Resolver) : List Deed → List Touch
  | [] => []
  | d :: rest => (r.touch? d).toList ++ (r.perform d).touches rest

/-- The request that a deed sends. -/
def sent? (r : Resolver) : Deed → Option String
  | .ask provider => if (r.request? provider).isSome then some provider else none
  | _ => none

/-- What is true between any two deeds: the cache holds the answers used last, and the failures are the
requests that failed. -/
structure Accounted (r₀ : Resolver) (touches : List Touch) (r : Resolver) : Prop where
  registry : r.registry = r₀.registry
  endpoint : r.endpoint = r₀.endpoint
  capacity : r.capacity = r₀.capacity
  recent : Recent r.capacity touches r.cache
  failures : r.failures = (r₀.verdicts r.requests).count .failed

variable {r₀ : Resolver} {used : List Touch}

theorem Accounted.verdict_eq (h : Accounted r₀ used r) (provider : String) (earlier : Nat) :
    r.verdict provider earlier = r₀.verdict provider earlier := by
  unfold verdict
  rw [request?_congr h.endpoint, h.registry]

theorem lookup_eq_none_iff {cache : List (String × String)} {provider : String} :
    cache.lookup provider = none ↔ provider ∉ cache.map (·.1) := by
  rw [List.lookup_eq_none_iff, List.mem_map]
  constructor
  · rintro h ⟨entry, hentry, rfl⟩
    exact bne_iff_ne.mp (h entry hentry) rfl
  · intro h entry hentry
    exact bne_iff_ne.mpr fun hc => h ⟨entry, hentry, hc.symm⟩

theorem cached_eq (r : Resolver) (provider : String) :
    r.cached provider = (r.cache.lookup provider, r.perform (.look provider)) := by
  simp only [Resolver.perform, cached]
  cases r.cache.lookup provider <;> rfl

/-- A look changes nothing, or it finds an answer and keeps it. -/
theorem look_cases (r : Resolver) (provider : String) :
    (r.cache.lookup provider = none ∧ r.perform (.look provider) = r) ∨
    ∃ name, (provider, name) ∈ r.cache ∧ r.cache.lookup provider = some name ∧
      r.perform (.look provider) = r.keep provider name := by
  simp only [Resolver.perform, cached]
  cases hlookup : r.cache.lookup provider with
  | none => exact Or.inl ⟨rfl, rfl⟩
  | some name =>
      obtain ⟨front, back, hcache, -⟩ := List.lookup_eq_some_iff.mp hlookup
      exact Or.inr ⟨name, by simp [hcache], rfl, rfl⟩

theorem Accounted.look (h : Accounted r₀ used r) (hcapacity : 0 < r₀.capacity) (provider : String) :
    Accounted r₀ (used ++ (r.touch? (.look provider)).toList) (r.perform (.look provider)) := by
  rcases r.look_cases provider with ⟨hlookup, hsame⟩ | ⟨name, hentry, hlookup, hkept⟩
  · rw [touch?_look, hlookup, Option.map_none, Option.toList_none, List.append_nil, hsame]
    exact h
  · have hlatest : latest? provider (used ++ [.hit provider]) = some name := by
      rw [latest?_concat]
      exact h.recent.answers _ hentry
    rw [touch?_look, hlookup, Option.map_some, Option.toList_some, hkept]
    exact
      { registry := h.registry
        endpoint := h.endpoint
        capacity := h.capacity
        recent := Recent.keep (t := .hit provider) (h.capacity ▸ hcapacity) h.recent hlatest
        failures := h.failures }

theorem Accounted.ask (h : Accounted r₀ used r) (hcapacity : 0 < r₀.capacity) (provider : String) :
    Accounted r₀ (used ++ (r.touch? (.ask provider)).toList) (r.perform (.ask provider)) := by
  rw [touch?_ask, Resolver.perform]
  cases hrequest : r.request? provider with
  | none =>
      have hfailed : r.verdict provider (r.requests.count provider) = .failed := by
        unfold verdict
        rw [hrequest]
        rfl
      rw [lookUp_none hrequest, hfailed, Option.toList_none, List.append_nil]
      exact h
  | some address =>
      have hcount : (r₀.verdicts (r.requests ++ [provider])).count .failed
          = r.failures + [r.verdict provider (r.requests.count provider)].count .failed := by
        rw [verdicts_concat, List.count_append, h.failures, h.verdict_eq]
      rw [lookUp_some (by rw [hrequest]; rfl)]
      cases hverdict : r.verdict provider (r.requests.count provider) with
      | answer name =>
          rw [hverdict] at hcount
          have hlatest : latest? provider (used ++ [.stored provider name]) = some name := by
            rw [latest?_concat]
            simp [Touch.answerFor?]
          let asked : Resolver := { r with requests := r.requests ++ [provider] }
          exact
            { registry := h.registry
              endpoint := h.endpoint
              capacity := h.capacity
              recent := Recent.keep (r := asked) (t := .stored provider name)
                (h.capacity ▸ hcapacity) h.recent hlatest
              failures := hcount.symm }
      | failed =>
          rw [hverdict] at hcount
          rw [Option.toList_none, List.append_nil]
          exact ⟨h.registry, h.endpoint, h.capacity, h.recent, hcount.symm⟩
      | unread =>
          rw [hverdict] at hcount
          rw [Option.toList_none, List.append_nil]
          exact ⟨h.registry, h.endpoint, h.capacity, h.recent, hcount.symm⟩

theorem Accounted.perform (h : Accounted r₀ used r) (hcapacity : 0 < r₀.capacity) (d : Deed) :
    Accounted r₀ (used ++ (r.touch? d).toList) (r.perform d) := by
  cases d with
  | look provider => exact h.look hcapacity provider
  | ask provider => exact h.ask hcapacity provider
  | close =>
      unfold touch?
      rw [Option.toList_none, List.append_nil]
      exact ⟨h.registry, h.endpoint, h.capacity, h.recent, h.failures⟩

/-- The account goes on through all deeds. -/
theorem Accounted.after (deeds : List Deed) : ∀ {r : Resolver} {used : List Touch},
    Accounted r₀ used r → 0 < r₀.capacity →
      Accounted r₀ (used ++ r.touches deeds) (r.after deeds) := by
  induction deeds with
  | nil =>
      intro r used h _
      rw [touches, List.append_nil]
      exact h
  | cons d rest ih =>
      intro r used h hcapacity
      rw [touches, ← List.append_assoc]
      exact ih (h.perform hcapacity d) hcapacity

/-- A resolver that has done nothing yet. -/
structure Fresh (r₀ : Resolver) : Prop where
  capacity : 0 < r₀.capacity
  cache : r₀.cache = []
  requests : r₀.requests = []
  failures : r₀.failures = 0
  stage : r₀.stage = .running

theorem fresh_of_ofRegistry {registry : Registry} {endpoint : String} {capacity workers : Int}
    (h : ofRegistry registry endpoint capacity workers = .ok r₀) :
    Fresh r₀ ∧ r₀.capacity = capacity.toNat := by
  unfold ofRegistry at h
  split at h
  · cases h
  · split at h
    · cases h
    · cases h
      exact ⟨⟨by show 0 < capacity.toNat; omega, rfl, rfl, rfl, rfl⟩, rfl⟩

theorem Fresh.accounted (h : Fresh r₀) : Accounted r₀ [] r₀ where
  registry := rfl
  endpoint := rfl
  capacity := rfl
  recent := by
    rw [h.cache]
    exact ⟨by simp [lastUsed, List.rtake], by simp⟩
  failures := by
    rw [h.failures, h.requests]
    rfl

theorem Fresh.after (h : Fresh r₀) (deeds : List Deed) :
    Accounted r₀ (r₀.touches deeds) (r₀.after deeds) :=
  Accounted.after deeds h.accounted h.capacity

end Resolver

end RetrievalTelemetry
