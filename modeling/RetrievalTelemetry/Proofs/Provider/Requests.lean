/-
Which requests are sent.

A call looks for all single providers that it names, and then asks the registry about those that it did
not find.  Which ones these are can be told when the call begins: looking does not change what the
cache knows, and asking about a provider does not make another one known.  So every call is a list of
deeds that depends on nothing but the cache and the stage before it, whatever the registry replies and
whatever the cache forgets in the meantime.

A run of calls is the list of their deeds, and what is true between any two deeds is true in the middle
of the calls as well.
-/
import RetrievalTelemetry.Proofs.Provider.Recency
import RetrievalTelemetry.Proofs.Provider.Transparency

namespace RetrievalTelemetry

namespace Resolver

variable {r₀ r : Resolver}

/-! ### What deeds change -/

/-- The providers that the cache knows. -/
def known (r : Resolver) : List String := r.cache.map (·.1)

theorem mem_known_keep {r : Resolver} {p q answer : String} (h : q ∈ (r.keep p answer).known) :
    q ∈ r.known ∨ q = p := by
  obtain ⟨entry, hentry, rfl⟩ := List.mem_map.mp h
  rcases List.mem_append.mp (List.mem_of_mem_drop hentry) with hold | hnew
  · exact Or.inl (List.mem_map_of_mem (List.mem_of_mem_filter hold))
  · exact Or.inr (congrArg Prod.fst (List.mem_singleton.mp hnew))

/-- Only an answer of the registry makes a provider known. -/
theorem mem_known_perform {q : String} {d : Deed} (h : q ∈ (r.perform d).known) :
    q ∈ r.known ∨ d = .ask q := by
  cases d with
  | look p =>
      rcases r.look_cases p with ⟨-, hsame⟩ | ⟨name, hentry, -, hkept⟩
      · rw [hsame] at h
        exact Or.inl h
      · rw [hkept] at h
        rcases mem_known_keep h with hold | rfl
        · exact Or.inl hold
        · exact Or.inl (List.mem_map_of_mem hentry)
  | ask p =>
      rw [Resolver.perform] at h
      cases hrequest : r.request? p with
      | none =>
          rw [lookUp_none hrequest] at h
          exact Or.inl h
      | some address =>
          rw [lookUp_some (by rw [hrequest]; rfl)] at h
          cases hverdict : r.verdict p (r.requests.count p) with
          | answer name =>
              rw [hverdict] at h
              rcases mem_known_keep h with hold | rfl
              · exact Or.inl hold
              · exact Or.inr rfl
          | failed =>
              rw [hverdict] at h
              exact Or.inl h
          | unread =>
              rw [hverdict] at h
              exact Or.inl h
  | close => exact Or.inl h

theorem lookup_filter_ne (cache : List (String × String)) (p q : String) :
    (cache.filter fun entry => entry.1 ≠ q).lookup p = if p = q then none else cache.lookup p := by
  induction cache with
  | nil => simp
  | cons entry rest ih =>
      obtain ⟨key, answer⟩ := entry
      by_cases hkey : key = q
      · subst hkey
        rw [List.filter_cons_of_neg (by simp), ih, List.lookup_cons]
        by_cases hp : p = key
        · rw [if_pos hp, if_pos hp]
        · rw [if_neg hp, if_neg hp, beq_false_of_ne hp]
      · rw [List.filter_cons_of_pos (by simpa using hkey), List.lookup_cons, List.lookup_cons, ih]
        by_cases hp : p = key
        · subst hp
          simp [hkey]
        · rw [beq_false_of_ne hp]

/-- Looking does not change what the cache knows. -/
theorem lookup_look (hbound : r.cache.length ≤ r.capacity) (p q : String) :
    (r.perform (.look q)).cache.lookup p = r.cache.lookup p := by
  rcases r.look_cases q with ⟨-, hsame⟩ | ⟨name, hentry, hlookup, hkept⟩
  · rw [hsame]
  · have hshorter : (r.cache.filter fun entry => entry.1 ≠ q).length < r.cache.length := by
      rw [List.length_filter_lt_length_iff_exists]
      exact ⟨(q, name), hentry, by simp⟩
    have hcache : (r.keep q name).cache
        = (r.cache.filter fun entry => entry.1 ≠ q) ++ [(q, name)] := by
      unfold Resolver.keep
      dsimp only
      rw [List.length_append, List.length_singleton, Nat.sub_eq_zero_of_le (by omega),
        List.drop_zero]
    rw [hkept, hcache, List.lookup_append, lookup_filter_ne]
    by_cases hp : p = q
    · subst hp
      simp [hlookup]
    · rw [if_neg hp, List.lookup_cons, beq_false_of_ne hp]
      exact Option.or_none

theorem length_look (hbound : r.cache.length ≤ r.capacity) (p : String) :
    (r.perform (.look p)).cache.length ≤ (r.perform (.look p)).capacity := by
  rcases r.look_cases p with ⟨-, hsame⟩ | ⟨name, -, -, hkept⟩
  · rw [hsame]
    exact hbound
  · rw [hkept]
    unfold Resolver.keep
    dsimp only
    rw [List.length_drop]
    omega

/-- What a deed does besides what it does to the cache. -/
theorem perform_eq (r : Resolver) (d : Deed) :
    (r.perform d).endpoint = r.endpoint ∧
      (r.perform d).stage = (if d = .close then .closed else r.stage) ∧
      (r.perform d).requests = r.requests ++ (r.sent? d).toList := by
  cases d with
  | look p =>
      rw [if_neg nofun, show (r.sent? (.look p)).toList = [] from rfl, List.append_nil]
      rcases r.look_cases p with ⟨-, hsame⟩ | ⟨name, -, -, hkept⟩
      · rw [hsame]
        exact ⟨rfl, rfl, rfl⟩
      · rw [hkept]
        exact ⟨rfl, rfl, rfl⟩
  | ask p =>
      rw [if_neg nofun, sent?, Resolver.perform]
      cases hrequest : r.request? p with
      | none =>
          rw [lookUp_none hrequest]
          exact ⟨rfl, rfl, (List.append_nil _).symm⟩
      | some address =>
          rw [lookUp_some (by rw [hrequest]; rfl)]
          cases r.verdict p (r.requests.count p) <;> exact ⟨rfl, rfl, rfl⟩
  | close =>
      rw [if_pos rfl]
      exact ⟨rfl, rfl, (List.append_nil _).symm⟩

theorem after_append (r : Resolver) (deeds more : List Deed) :
    r.after (deeds ++ more) = (r.after deeds).after more := List.foldl_append

/-- What deeds do besides what they do to the cache. -/
theorem after_eq (deeds : List Deed) : ∀ r : Resolver,
    (r.after deeds).endpoint = r.endpoint ∧
      (r.after deeds).stage = (if .close ∈ deeds then .closed else r.stage) ∧
      (r.after deeds).requests = r.requests ++ deeds.filterMap r.sent? := by
  induction deeds with
  | nil => exact fun r => ⟨rfl, rfl, (List.append_nil _).symm⟩
  | cons d rest ih =>
      intro r
      obtain ⟨hendpoint, hstage, hrequests⟩ := r.perform_eq d
      obtain ⟨hendpoint', hstage', hrequests'⟩ := ih (r.perform d)
      have hsent : (r.perform d).sent? = r.sent? := by
        funext d'
        cases d' with
        | ask p => simp only [sent?, request?_congr hendpoint]
        | _ => rfl
      refine ⟨hendpoint'.trans hendpoint, hstage'.trans ?_, hrequests'.trans ?_⟩
      · rw [hstage]
        by_cases hrest : .close ∈ rest
        · simp [hrest]
        · simp [hrest, eq_comm]
      · rw [hsent, hrequests, List.append_assoc]
        cases hd : r.sent? d with
        | none => rw [List.filterMap_cons_none hd]; rfl
        | some p => rw [List.filterMap_cons_some hd]; rfl

/-! ### The deeds of a call -/

/-- A call. -/
inductive Call where
  | cached (provider : String)
  | resolve (provider : String)
  | resolveMany (providers : List String)
  | close
deriving DecidableEq

/-- The providers whose names a call gives. -/
def Call.providers : Call → List String
  | resolve provider => [provider]
  | resolveMany providers => providers
  | _ => []

/-- What a call leaves behind. -/
def call (r : Resolver) : Call → Resolver
  | .cached provider => (r.cached provider).2
  | .resolve provider => (r.resolve provider).2
  | .resolveMany providers => (r.resolveMany providers).2
  | .close => r.close

/-- The resolver after calls in their order. -/
def afterCalls (r : Resolver) (calls : List Call) : Resolver := calls.foldl call r

/-- Those providers that stand for a single one, each once. -/
def singles (providers : List String) : List String :=
  providers.eraseDups.filter fun p => !Transport.isAgnostic p

/-- Those single providers that are not in the cache. -/
def missing (r : Resolver) (providers : List String) : List String :=
  (singles providers).filter fun p => (r.cache.lookup p).isNone

/-- All providers are looked for first.  Then the registry is asked about those that were not found. -/
def lookingUp (r : Resolver) (providers : List String) : List Deed :=
  (singles providers).map .look ++
    if r.stage = .closed then [] else (r.missing providers).map .ask

/-- What a call consists of. -/
def deeds (r : Resolver) : Call → List Deed
  | .cached provider => [.look provider]
  | .resolve provider => r.lookingUp [provider]
  | .resolveMany providers => r.lookingUp providers
  | .close => [.close]

/-- The deeds of calls that are made one after the other. -/
def deedsOf (r : Resolver) : List Call → List Deed
  | [] => []
  | c :: rest => r.deeds c ++ (r.call c).deedsOf rest

theorem mem_singles {providers : List String} {p : String} :
    p ∈ singles providers ↔ p ∈ providers ∧ Transport.isAgnostic p = false := by
  simp [singles]

theorem nodup_singles (providers : List String) : (singles providers).Nodup :=
  (nodup_eraseDups providers).filter _

/-- A lookup that needs the registry. -/
theorem resolve_missing {p : String} (hsingle : Transport.isAgnostic p = false)
    (hmissing : r.cache.lookup p = none) :
    (r.resolve p).2 = r.after (if r.stage = .closed then [] else [.ask p]) := by
  unfold resolve
  rw [if_neg (by simp [hsingle])]
  unfold cached
  rw [hmissing]
  dsimp only
  split <;> rfl

/-- A lookup consists of a look and perhaps a question. -/
theorem resolve_eq (r : Resolver) (p : String) : (r.resolve p).2 = r.after (r.lookingUp [p]) := by
  unfold lookingUp missing singles
  rw [List.eraseDups_cons, List.filter_nil, List.eraseDups_nil]
  cases hsingle : Transport.isAgnostic p with
  | true =>
      rw [List.filter_cons_of_neg (by simp [hsingle])]
      unfold resolve
      rw [if_pos hsingle]
      split <;> rfl
  | false =>
      rw [List.filter_cons_of_pos (by simp [hsingle]), List.filter_nil, List.map_singleton,
        after_append]
      rcases r.look_cases p with ⟨hlookup, hsame⟩ | ⟨name, -, hlookup, hkept⟩
      · rw [resolve_missing hsingle hlookup, List.filter_cons_of_pos (by rw [hlookup]; rfl)]
        show _ = (r.perform (.look p)).after _
        rw [hsame]
        rfl
      · rw [List.filter_cons_of_neg (by simp [hlookup]), List.filter_nil, List.map_nil, ite_self]
        show _ = r.perform (.look p)
        unfold resolve
        rw [if_neg (by simp [hsingle]), cached_eq, hlookup]

/-- Lookups that need the registry, one after the other. -/
theorem resolveEach_eq (pending : List String) : ∀ {r : Resolver}, pending.Nodup →
    (∀ p ∈ pending, Transport.isAgnostic p = false ∧ r.cache.lookup p = none) →
    (r.resolveEach pending).2 = r.after (if r.stage = .closed then [] else pending.map .ask) := by
  induction pending with
  | nil =>
      intro r _ _
      rw [List.map_nil, ite_self]
      rfl
  | cons p rest ih =>
      intro r hnodup hpending
      obtain ⟨hp, hrest⟩ := List.nodup_cons.mp hnodup
      obtain ⟨hsingle, hmissing⟩ := hpending p List.mem_cons_self
      have hresolve := resolve_missing hsingle hmissing
      have hothers : ∀ q ∈ rest,
          Transport.isAgnostic q = false ∧ (r.resolve p).2.cache.lookup q = none := by
        intro q hq
        obtain ⟨hsingle', hmissing'⟩ := hpending q (List.mem_cons_of_mem _ hq)
        refine ⟨hsingle', ?_⟩
        -- what is asked about `p` makes nothing but `p` known
        rw [hresolve]
        split
        · exact hmissing'
        · rw [lookup_eq_none_iff] at hmissing' ⊢
          intro hknown
          rcases mem_known_perform (d := .ask p) hknown with hold | hask
          · exact hmissing' hold
          · cases hask
            exact hp hq
      have heach : (r.resolveEach (p :: rest)).2 = ((r.resolve p).2.resolveEach rest).2 := rfl
      rw [heach, ih hrest hothers, hresolve]
      by_cases hclosed : r.stage = .closed
      · rw [if_pos hclosed, if_pos hclosed]
        show r.after _ = r
        rw [if_pos (show (r.after []).stage = _ from hclosed)]
        rfl
      · have hstage : (r.after [.ask p]).stage = r.stage := by
          rw [(after_eq _ r).2.1, if_neg (by simp)]
        rw [if_neg hclosed, if_neg hclosed, hstage, if_neg hclosed, ← after_append]
        rfl

/-- Looks into the cache, one after the other. -/
theorem remember_eq (providers : List String) : ∀ {r : Resolver}, r.cache.length ≤ r.capacity →
    let looked := providers.filter fun p => !Transport.isAgnostic p
    (r.remember providers).2 = r.after (looked.map .look) ∧
      (r.remember providers).1.2 = looked.filter (fun p => (r.cache.lookup p).isNone) ∧
      ∀ p, (r.remember providers).2.cache.lookup p = r.cache.lookup p := by
  induction providers with
  | nil => exact fun _ => ⟨rfl, rfl, fun _ => rfl⟩
  | cons p rest ih =>
      intro r hbound looked
      cases hsingle : Transport.isAgnostic p with
      | true =>
          have hlooked : looked = rest.filter fun p => !Transport.isAgnostic p :=
            List.filter_cons_of_neg (by simp [hsingle])
          obtain ⟨hafter, hpending, hlookups⟩ := ih hbound
          rw [hlooked]
          unfold remember
          rw [if_pos hsingle]
          exact ⟨hafter, hpending, hlookups⟩
      | false =>
          have hlooked : looked = p :: rest.filter fun p => !Transport.isAgnostic p :=
            List.filter_cons_of_pos (by simp [hsingle])
          -- the rest is looked for in another cache, which knows the same
          obtain ⟨hafter, hpending, hlookups⟩ := ih (length_look hbound p)
          simp only [lookup_look hbound] at hpending hlookups
          rw [hlooked]
          unfold remember
          rw [if_neg (by simp [hsingle]), cached_eq]
          cases hlookup : r.cache.lookup p with
          | none =>
              rw [List.filter_cons_of_pos (by rw [hlookup]; rfl)]
              exact ⟨hafter, congrArg _ hpending, hlookups⟩
          | some name =>
              rw [List.filter_cons_of_neg (by simp [hlookup])]
              exact ⟨hafter, hpending, hlookups⟩

theorem resolveMany_eq (hbound : r.cache.length ≤ r.capacity) (hstage : r.stage ≠ .withoutWorkers)
    (providers : List String) : (r.resolveMany providers).2 = r.after (r.lookingUp providers) := by
  obtain ⟨hafter, hpending, hlookups⟩ := remember_eq providers.eraseDups hbound
  have hpending : (r.remember providers.eraseDups).1.2 = r.missing providers := hpending
  have hlookedFor : (r.remember providers.eraseDups).2.stage = r.stage := by
    rw [hafter, (after_eq _ r).2.1, if_neg (by simp)]
  have heach := resolveEach_eq (r := (r.remember providers.eraseDups).2) (r.missing providers)
    ((nodup_singles providers).filter _) (by
      intro p hp
      obtain ⟨hp, hnone⟩ := List.mem_filter.mp hp
      exact ⟨(mem_singles.mp hp).2, (hlookups p).trans (Option.isNone_iff_eq_none.mp hnone)⟩)
  rw [hlookedFor] at heach
  unfold resolveMany
  dsimp only
  rw [if_neg (by rw [hlookedFor]; exact fun h => hstage h.1), hpending]
  dsimp only
  rw [heach, hafter, ← after_append]
  rfl

/-- Every call is a list of deeds that can be told when it begins. -/
theorem call_eq (hbound : r.cache.length ≤ r.capacity) (hstage : r.stage ≠ .withoutWorkers)
    (c : Call) : r.call c = r.after (r.deeds c) := by
  cases c with
  | cached p => rfl
  | resolve p => exact r.resolve_eq p
  | resolveMany providers => exact resolveMany_eq hbound hstage providers
  | close => rfl

theorem ask_mem_deeds {c : Call} {p : String} : .ask p ∈ r.deeds c ↔
    p ∈ c.providers ∧ Transport.isAgnostic p = false ∧ r.cache.lookup p = none ∧
      r.stage ≠ .closed := by
  have hlookingUp : ∀ providers, .ask p ∈ r.lookingUp providers ↔
      p ∈ providers ∧ Transport.isAgnostic p = false ∧ r.cache.lookup p = none ∧
        r.stage ≠ .closed := by
    intro providers
    unfold lookingUp missing
    by_cases hclosed : r.stage = .closed
    · simp [hclosed]
    · simp [hclosed, mem_singles, and_assoc]
  cases c with
  | resolve q => exact hlookingUp [q]
  | resolveMany providers => exact hlookingUp providers
  | _ => simp [deeds, Call.providers]

theorem close_mem_deeds {c : Call} : .close ∈ r.deeds c ↔ c = .close := by
  have hlookingUp : ∀ providers, Deed.close ∉ r.lookingUp providers := by
    intro providers
    unfold lookingUp
    split <;> simp
  cases c with
  | resolve q => exact iff_of_false (hlookingUp [q]) nofun
  | resolveMany providers => exact iff_of_false (hlookingUp providers) nofun
  | _ => simp [deeds]

theorem mem_sent {deeds : List Deed} {p : String} :
    p ∈ deeds.filterMap r.sent? ↔ .ask p ∈ deeds ∧ (r.request? p).isSome = true := by
  rw [List.mem_filterMap]
  constructor
  · rintro ⟨d, hd, hsent⟩
    cases d with
    | ask q =>
        obtain ⟨hrequest, hq⟩ := Option.ite_none_right_eq_some.mp hsent
        cases hq
        exact ⟨hd, hrequest⟩
    | _ => cases hsent
  · rintro ⟨hd, hrequest⟩
    exact ⟨.ask p, hd, if_pos hrequest⟩

/-- The deeds of a call are all different, and so are its requests. -/
theorem nodup_sent (r : Resolver) (c : Call) : ((r.deeds c).filterMap r.sent?).Nodup := by
  have hlookingUp : ∀ providers, (r.lookingUp providers).Nodup := by
    intro providers
    have hsingles := nodup_singles providers
    unfold lookingUp
    rw [List.nodup_append]
    refine ⟨hsingles.map fun _ _ => Deed.look.inj, ?_, ?_⟩
    · split
      · exact List.nodup_nil
      · exact (hsingles.filter _).map fun _ _ => Deed.ask.inj
    · split <;> simp
  have hdeeds : (r.deeds c).Nodup := by
    cases c with
    | resolve p => exact hlookingUp [p]
    | resolveMany providers => exact hlookingUp providers
    | _ => exact List.nodup_singleton _
  refine hdeeds.filterMap fun d d' p hd hd' => ?_
  have hask : ∀ {d : Deed}, p ∈ r.sent? d → d = .ask p := by
    intro d h
    obtain ⟨hmem, -⟩ := mem_sent.mp (List.mem_filterMap.mpr ⟨d, List.mem_singleton_self d, h⟩)
    exact (List.mem_singleton.mp hmem).symm
  rw [hask hd, hask hd']

/-! ### Runs -/

theorem afterCalls_concat (r : Resolver) (calls : List Call) (c : Call) :
    r.afterCalls (calls ++ [c]) = (r.afterCalls calls).call c := List.foldl_append

theorem deedsOf_concat (calls : List Call) (c : Call) : ∀ r : Resolver,
    r.deedsOf (calls ++ [c]) = r.deedsOf calls ++ (r.afterCalls calls).deeds c := by
  induction calls with
  | nil => exact fun _ => List.append_nil _
  | cons first rest ih =>
      intro r
      rw [List.cons_append, deedsOf, deedsOf, ih, List.append_assoc]
      rfl

theorem close_mem_deedsOf {calls : List Call} : ∀ {r : Resolver},
    .close ∈ r.deedsOf calls ↔ .close ∈ calls := by
  induction calls with
  | nil => exact fun {_} => iff_of_false List.not_mem_nil List.not_mem_nil
  | cons first rest ih =>
      intro r
      rw [deedsOf, List.mem_append, List.mem_cons, close_mem_deeds, ih, eq_comm]

/-- Nothing is asked about a provider that stands for no single one. -/
theorem single_of_ask {calls : List Call} {p : String} : ∀ {r : Resolver},
    .ask p ∈ r.deedsOf calls → Transport.isAgnostic p = false := by
  induction calls with
  | nil => exact fun h => absurd h List.not_mem_nil
  | cons first rest ih =>
      intro r h
      rcases List.mem_append.mp h with hfirst | hrest
      · exact (ask_mem_deeds.mp hfirst).2.1
      · exact ih hrest

/-- Only answers about single providers are used if nothing is asked about the others. -/
theorem single_of_touch {deeds : List Deed}
    (hasked : ∀ p, .ask p ∈ deeds → Transport.isAgnostic p = false) : ∀ {r : Resolver},
    (∀ p ∈ r.known, Transport.isAgnostic p = false) →
      ∀ t ∈ r.touches deeds, Transport.isAgnostic t.provider = false := by
  induction deeds with
  | nil => exact fun _ t ht => absurd ht List.not_mem_nil
  | cons d rest ih =>
      intro r hknown t ht
      rcases List.mem_append.mp ht with hfirst | hrest
      · cases d with
        | look p =>
            obtain ⟨name, hlookup, rfl⟩ := Option.map_eq_some_iff.mp (Option.mem_toList.mp hfirst)
            obtain ⟨front, back, hcache, -⟩ := List.lookup_eq_some_iff.mp hlookup
            exact hknown p (by simp [known, hcache])
        | ask p =>
            have hsingle := hasked p List.mem_cons_self
            rw [touch?_ask] at hfirst
            split at hfirst
            · rw [List.mem_singleton.mp hfirst]
              exact hsingle
            · cases hfirst
        | close => cases hfirst
      · refine ih (fun p hp => hasked p (List.mem_cons_of_mem _ hp)) (fun p hp => ?_) t hrest
        rcases mem_known_perform hp with hold | rfl
        · exact hknown p hold
        · exact hasked p List.mem_cons_self

/-- Calls are their deeds. -/
theorem Fresh.afterCalls_eq (h : Fresh r₀) (calls : List Call) :
    r₀.afterCalls calls = r₀.after (r₀.deedsOf calls) := by
  induction calls using List.reverseRecOn with
  | nil => rfl
  | append_singleton calls c ih =>
      have hbound := (h.after (r₀.deedsOf calls)).recent.length_le
      have hstage : (r₀.after (r₀.deedsOf calls)).stage ≠ .withoutWorkers := by
        rw [(after_eq _ r₀).2.1, h.stage]
        split <;> nofun
      rw [afterCalls_concat, deedsOf_concat, after_append, ← ih]
      rw [← ih] at hbound hstage
      exact call_eq hbound hstage c

/-- What comes of a request is an answer, or it is counted, or its reply is not read. -/
theorem countP_not_isAnswer (verdicts : List Verdict) :
    verdicts.countP (fun v => !v.isAnswer) = verdicts.count .failed + verdicts.count .unread := by
  induction verdicts with
  | nil => rfl
  | cons v rest ih =>
      rw [List.countP_cons, ih, List.count_cons, List.count_cons]
      cases v <;> simp [Verdict.isAnswer] <;> omega

/-- Whatever the registry replies and when, and in the middle of every call, the cache holds the
answers used last; a provider is asked about if a call names it that does not find it there.  Failures
are the requests without an answer, except for those whose reply is nested too deep. -/
theorem cache_recent {registry : Registry} {endpoint : String} {capacity : Int}
    (hfresh : ofRegistry registry endpoint capacity 1 = .ok r₀) (calls : List Call) :
    r₀.afterCalls calls = r₀.after (r₀.deedsOf calls) ∧
      (∀ moment, moment <+: r₀.deedsOf calls →
        let r := r₀.after moment
        Recent capacity.toNat (r₀.touches moment) r.cache ∧
          (r₀.verdicts r.requests).countP (fun v => !v.isAnswer)
            = r.failures + (r₀.verdicts r.requests).count .unread) ∧
      (∀ t ∈ r₀.touches (r₀.deedsOf calls), Transport.isAgnostic t.provider = false) ∧
      ∀ c, ∃ asked,
        (r₀.afterCalls (calls ++ [c])).requests = (r₀.afterCalls calls).requests ++ asked ∧
          asked.Nodup ∧
          ∀ p, p ∈ asked ↔
            p ∈ c.providers ∧ Transport.isAgnostic p = false ∧
              ((r₀.afterCalls calls).cached p).1 = none ∧ .close ∉ calls ∧
              (r₀.request? p).isSome = true := by
  obtain ⟨hstart, hsize⟩ := fresh_of_ofRegistry hfresh
  refine ⟨hstart.afterCalls_eq calls, fun moment _ => ?_, ?_, fun c => ?_⟩
  · have haccounted := hstart.after moment
    refine ⟨?_, ?_⟩
    · rw [← hsize, ← haccounted.capacity]
      exact haccounted.recent
    · rw [countP_not_isAnswer, ← haccounted.failures]
  · refine single_of_touch (fun p => single_of_ask) fun p hp => ?_
    unfold known at hp
    rw [hstart.cache] at hp
    cases hp
  · generalize hr : r₀.afterCalls calls = r
    have hdeeds : r₀.after (r₀.deedsOf calls) = r := by rw [← hr, hstart.afterCalls_eq]
    obtain ⟨hendpoint, hstage, -⟩ := after_eq (r₀.deedsOf calls) r₀
    rw [hdeeds] at hendpoint hstage
    have hcall : r₀.afterCalls (calls ++ [c]) = r.after (r.deeds c) := by
      rw [hstart.afterCalls_eq, deedsOf_concat, after_append, hdeeds, hr]
    have hopen : r.stage ≠ .closed ↔ .close ∉ calls := by
      rw [hstage, hstart.stage, ← close_mem_deedsOf (r := r₀)]
      split <;> simp [*]
    refine ⟨_, by rw [hcall, (after_eq _ r).2.2], r.nodup_sent c, fun p => ?_⟩
    rw [mem_sent, ask_mem_deeds, hopen, request?_congr hendpoint, cached_eq]
    simp only [and_assoc]

/-- The first lookup of a resolver that can send its request. -/
theorem Fresh.resolve (h : Fresh r₀) {p : String} (hsingle : Transport.isAgnostic p = false) :
    r₀.afterCalls [.resolve p] = (r₀.lookUp p).2 := by
  have hmissing : r₀.cache.lookup p = none := by
    rw [h.cache]
    rfl
  show (r₀.resolve p).2 = _
  rw [resolve_missing hsingle hmissing, if_neg (by rw [h.stage]; nofun)]
  rfl

/-- With room for one answer, a name that was found is remembered, and a call that asks for it again
sends a request about the other provider only. -/
theorem cache_recent_one :
    let registry : Registry := fun provider _ =>
      if provider = "p" then .response 200 "[\"f01\"]".toUTF8 else .unreachable
    ∃ r₀ asked, ofRegistry registry "https://registry.test" 1 1 = .ok r₀ ∧
      (r₀.afterCalls [.resolve "p"]).cache = [("p", "f01")] ∧
      (r₀.afterCalls [.resolve "p", .resolveMany ["p", "q"]]).requests
        = (r₀.afterCalls [.resolve "p"]).requests ++ asked ∧
      "p" ∉ asked ∧ "q" ∈ asked := by
  intro registry
  obtain ⟨r₀, hfresh, hregistry, hendpoint⟩ :=
    exists_ofRegistry registry "https://registry.test" (show (0 : Int) < 1 by decide)
      (show (0 : Int) < 1 by decide)
  obtain ⟨address, haddress, hcomplete⟩ := exists_request (p := "p") hendpoint (by decide +kernel)
  obtain ⟨addressq, haddressq, -⟩ := exists_request (p := "q") hendpoint (by decide +kernel)
  obtain ⟨hstart, hsize⟩ := fresh_of_ofRegistry hfresh
  have hverdict : r₀.verdict "p" (r₀.requests.count "p") = .answer "f01" := by
    have hreply : ∀ earlier, r₀.registry "p" earlier = .response 200 "[\"f01\"]".toUTF8 := by
      intro earlier
      rw [hregistry]
      exact if_pos rfl
    rw [verdict_of_complete haddress hcomplete, hreply]
    exact congrArg Verdict.ofNames Reply.names?_one
  have hcache : (r₀.afterCalls [.resolve "p"]).cache = [("p", "f01")] := by
    have hcapacity : r₀.capacity = 1 := hsize
    rw [hstart.resolve (by decide), lookUp_some (by rw [haddress]; rfl), hverdict]
    simp [Resolver.keep, hstart.cache, hcapacity]
  obtain ⟨-, -, -, hcalls⟩ := cache_recent hfresh [.resolve "p"]
  obtain ⟨asked, hrequests, -, hasked⟩ := hcalls (.resolveMany ["p", "q"])
  have hknown : ((r₀.afterCalls [.resolve "p"]).cached "p").1 = some "f01" := by
    rw [cached_eq, hcache]
    rfl
  have hunknown : ((r₀.afterCalls [.resolve "p"]).cached "q").1 = none := by
    rw [cached_eq, hcache]
    rfl
  refine ⟨r₀, asked, hfresh, hcache, hrequests, fun hp => ?_, ?_⟩
  · obtain ⟨-, -, hnone, -⟩ := (hasked "p").mp hp
    rw [hknown] at hnone
    cases hnone
  · refine (hasked "q").mpr ⟨by simp [Call.providers], by decide, hunknown, by simp, ?_⟩
    rw [haddressq]
    rfl

/-- A reply that is nested too deep is not definitive, and it is not counted. -/
theorem uncounted_deep_reply :
    ∃ r₀, ofRegistry (fun _ _ => .response 200 (Json.nested 100000).toUTF8)
        "https://registry.test" 100 1 = .ok r₀ ∧
      let r := r₀.afterCalls [.resolve "p"]
      r.requests = ["p"] ∧ (r₀.verdicts r.requests).countP (fun v => !v.isAnswer) = 1 ∧
        r.failures = 0 := by
  obtain ⟨r₀, hfresh, hregistry, hendpoint⟩ :=
    exists_ofRegistry (fun _ _ => .response 200 (Json.nested 100000).toUTF8) "https://registry.test"
      (show (0 : Int) < 100 by decide) (show (0 : Int) < 1 by decide)
  obtain ⟨address, haddress, hcomplete⟩ := exists_request (p := "p") hendpoint (by decide +kernel)
  obtain ⟨hstart, -⟩ := fresh_of_ofRegistry hfresh
  have hverdict : ∀ earlier, r₀.verdict "p" earlier = .unread := by
    intro earlier
    rw [verdict_of_complete haddress hcomplete, hregistry]
    exact congrArg Verdict.ofNames (Reply.names?_nested (by decide))
  have hafter : r₀.afterCalls [.resolve "p"] = { r₀ with requests := ["p"] } := by
    rw [hstart.resolve (by decide), lookUp_some (by rw [haddress]; rfl), hverdict, hstart.requests]
    rfl
  have hverdicts : r₀.verdicts ["p"] = [.unread] := by
    show [r₀.verdict "p" _] = _
    rw [hverdict]
  refine ⟨r₀, hfresh, ?_⟩
  rw [hafter]
  exact ⟨rfl, by rw [hverdicts]; rfl, hstart.failures⟩

end Resolver

end RetrievalTelemetry
