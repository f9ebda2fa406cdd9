/-
Lookups do not get into each other's way.

A call for several names gives each provider the name that a single lookup would have given it when
the call began.  This holds of every registry, also of one that changes its mind from one request to
the next, whatever the cache holds and forgets meanwhile and in whatever order the workers make their
steps.

What a lookup comes to depends on a few things only: on the registry and how often it was asked about
the provider, and on what the cache holds for it.  `Alike` says that two resolvers agree on these.  A
step for one provider changes nothing of this for another one that is still looked for (`Spares`):
asking about it is not counted for others, and keeping its answer can make the cache forget others,
but never know them.  Providers that the cache does know are not among those looked for, because all
of them are found first.
-/
import RetrievalTelemetry.Proofs.Provider.Requests

namespace RetrievalTelemetry

namespace Resolver

variable {r s : Resolver} {p : String}

/-! ### What a lookup depends on -/

/-- A lookup of a provider cannot tell the two resolvers apart. -/
structure Alike (r s : Resolver) (p : String) : Prop where
  registry : s.registry = r.registry
  endpoint : s.endpoint = r.endpoint
  stage : s.stage = r.stage
  asked : s.requests.count p = r.requests.count p
  kept : s.cache.lookup p = r.cache.lookup p

theorem Alike.ask (h : Alike r s p) (address : WebAddress) :
    (s.ask address p).1 = (r.ask address p).1 := by
  unfold Resolver.ask
  rw [h.registry, h.asked]
  dsimp only
  split
  · cases (r.registry p (r.requests.count p)).answer? with
    | error e => rfl
    | ok found => cases found <;> rfl
  · rfl

theorem Alike.lookUp (h : Alike r s p) : (s.lookUp p).1 = (r.lookUp p).1 := by
  unfold Resolver.lookUp
  rw [request?_congr h.endpoint]
  cases r.request? p with
  | none => rfl
  | some address =>
      have hask := h.ask address
      dsimp only
      generalize r.ask address p = reply at hask ⊢
      generalize s.ask address p = reply' at hask ⊢
      obtain ⟨found, r'⟩ := reply
      obtain ⟨found', s'⟩ := reply'
      obtain rfl : found' = found := hask
      cases found' with
      | error e => rfl
      | ok name => cases name <;> rfl

/-- What a lookup comes to, by what the cache holds. -/
theorem resolve_fst (r : Resolver) (p : String) :
    (r.resolve p).1 =
      if Transport.isAgnostic p then .ok ""
      else
        match r.cache.lookup p with
        | some name => .ok name
        | none => if r.stage = .closed then .ok "" else (r.lookUp p).1 := by
  unfold resolve cached
  split
  · rfl
  · cases r.cache.lookup p with
    | some name => rfl
    | none => dsimp only; split <;> rfl

theorem Alike.resolve (h : Alike r s p) : (s.resolve p).1 = (r.resolve p).1 := by
  rw [resolve_fst, resolve_fst, h.kept, h.stage, h.lookUp]

/-- The lookup of a single provider that the cache does not know. -/
structure Unserved (r s : Resolver) (p : String) : Prop where
  alike : Alike r s p
  single : Transport.isAgnostic p = false
  missing : s.cache.lookup p = none

theorem Unserved.resolve (h : Unserved r s p) :
    (r.resolve p).1 = if s.stage = .closed then .ok "" else (s.lookUp p).1 := by
  rw [← h.alike.resolve, resolve_fst, if_neg (by simp [h.single]), h.missing]

/-! ### What the steps for other providers leave alone -/

/-- What happens for a provider is no matter to the others that are still looked for. -/
structure Spares (p : String) (s s' : Resolver) : Prop where
  registry : s'.registry = s.registry
  endpoint : s'.endpoint = s.endpoint
  stage : s'.stage = s.stage
  asked : ∀ q, q ≠ p → s'.requests.count q = s.requests.count q
  missing : ∀ q, q ≠ p → s.cache.lookup q = none → s'.cache.lookup q = none

theorem Spares.refl (p : String) (s : Resolver) : Spares p s s :=
  ⟨rfl, rfl, rfl, fun _ _ => rfl, fun _ _ h => h⟩

theorem Unserved.spared {q : String} {s' : Resolver} (h : Unserved r s q) (hs : Spares p s s')
    (hne : q ≠ p) : Unserved r s' q where
  alike :=
    { registry := hs.registry.trans h.alike.registry
      endpoint := hs.endpoint.trans h.alike.endpoint
      stage := hs.stage.trans h.alike.stage
      asked := (hs.asked q hne).trans h.alike.asked
      kept := by rw [hs.missing q hne h.missing, ← h.alike.kept, h.missing] }
  single := h.single
  missing := hs.missing q hne h.missing

theorem spares_keep (s : Resolver) (p answer : String) : Spares p s (s.keep p answer) where
  registry := rfl
  endpoint := rfl
  stage := rfl
  asked _ _ := rfl
  missing q hne hmissing := by
    rw [lookup_eq_none_iff] at hmissing ⊢
    intro hknown
    rcases mem_known_keep hknown with hold | heq
    · exact hmissing hold
    · exact hne heq

/-- A request is noted, and that it failed if it did. -/
theorem ask_frame (s : Resolver) (address : WebAddress) (p : String) :
    ∃ failures, (s.ask address p).2
      = { s with requests := s.requests ++ [p], failures := failures } := by
  unfold Resolver.ask
  dsimp only
  split
  · cases (s.registry p (s.requests.count p)).answer? with
    | error e => exact ⟨s.failures, rfl⟩
    | ok found =>
        cases found with
        | some answer => exact ⟨s.failures, rfl⟩
        | none => exact ⟨s.failures + 1, rfl⟩
  · exact ⟨s.failures + 1, rfl⟩

theorem inquire_frame (s : Resolver) (p : String) :
    (s.inquire p).2 = s ∨ ∃ failures, (s.inquire p).2
      = { s with requests := s.requests ++ [p], failures := failures } := by
  unfold Resolver.inquire
  cases s.request? p with
  | none => exact Or.inl rfl
  | some address =>
      have hasked := s.ask_frame address p
      dsimp only
      generalize s.ask address p = reply at hasked ⊢
      obtain ⟨found, s'⟩ := reply
      cases found with
      | error e => exact Or.inr hasked
      | ok name => cases name <;> exact Or.inr hasked

theorem spares_inquire (s : Resolver) (p : String) : Spares p s (s.inquire p).2 := by
  have hcount : ∀ q, q ≠ p → (s.requests ++ [p]).count q = s.requests.count q := by
    intro q hne
    rw [List.count_append, List.count_singleton, beq_false_of_ne hne.symm]
    rfl
  rcases s.inquire_frame p with hsame | ⟨failures, hasked⟩
  · rw [hsame]
    exact Spares.refl p s
  · rw [hasked]
    exact ⟨rfl, rfl, rfl, hcount, fun _ _ hmissing => hmissing⟩

/-! ### Lookups at the same time -/

/-- A lookup that got so far will come to what it would have come to alone, or it did. -/
def Task.Sure (r s : Resolver) : Task → Prop
  | waiting p => Unserved r s p
  | asking p => Unserved r s p ∧ s.stage ≠ .closed
  | answered p answer => (r.resolve p).1 = .ok answer
  | done p result => (r.resolve p).1 = result

theorem Task.Sure.spared {t : Task} {s' : Resolver} (h : t.Sure r s) (hs : Spares p s s')
    (hne : t.provider ≠ p) : t.Sure r s' := by
  cases t with
  | waiting q => exact Unserved.spared h hs hne
  | asking q => exact ⟨h.1.spared hs hne, by rw [hs.stage]; exact h.2⟩
  | answered q answer => exact h
  | done q result => exact h

/-- Each step of a lookup keeps it sure and spares the others. -/
theorem Task.Sure.advance {t : Task} (h : t.Sure r s) :
    (s.advance t).1.Sure r (s.advance t).2 ∧ Spares t.provider s (s.advance t).2 := by
  cases t with
  | waiting q =>
      have h : Unserved r s q := h
      have hconsult : s.consult q
          = (if s.stage = .closed then .done q (.ok "") else .asking q, s) := by
        unfold Resolver.consult cached
        rw [if_neg (by simp [h.single]), h.missing]
      rw [Resolver.advance, hconsult]
      refine ⟨?_, Spares.refl q s⟩
      by_cases hclosed : s.stage = .closed
      · rw [if_pos hclosed]
        exact h.resolve.trans (if_pos hclosed)
      · rw [if_neg hclosed]
        exact ⟨h, hclosed⟩
  | asking q =>
      obtain ⟨hunserved, hopen⟩ := h
      have hresolve := hunserved.resolve.trans (if_neg hopen)
      have hspares := spares_inquire s q
      rw [Resolver.advance]
      rcases inquire_cases s q with ⟨result, s', hstep, hlookUp⟩ | ⟨answer, s', hstep, hlookUp⟩
      · rw [hstep] at hspares ⊢
        rw [hlookUp] at hresolve
        exact ⟨hresolve, hspares⟩
      · rw [hstep] at hspares ⊢
        rw [hlookUp] at hresolve
        exact ⟨hresolve, hspares⟩
  | answered q answer => exact ⟨h, spares_keep s q answer⟩
  | done q result => exact ⟨h, Spares.refl q s⟩

/-- In any order of the steps all lookups stay sure, if they are for different providers. -/
theorem Worked.sure {s' : Resolver} {tasks tasks' : List Task} (hworked : Worked s tasks s' tasks')
    (hnodup : (tasks.map Task.provider).Nodup) (htasks : ∀ t ∈ tasks, t.Sure r s) :
    ∀ t ∈ tasks', t.Sure r s' := by
  induction hworked with
  | rest => exact htasks
  | @step s s' front back tasks' t _ ih =>
      obtain ⟨ht, hspares⟩ := (htasks t (by simp)).advance
      have hother : ∀ u ∈ front ++ back, u.provider ≠ t.provider := by
        rw [List.map_append, List.map_cons] at hnodup
        have hnotin := (List.nodup_cons.mp (List.nodup_middle.mp hnodup)).1
        rw [← List.map_append] at hnotin
        exact fun u hu heq => hnotin (heq ▸ List.mem_map_of_mem hu)
      refine ih ?_ fun u hu => ?_
      · rw [List.map_append, List.map_cons, provider_advance, ← List.map_cons, ← List.map_append]
        exact hnodup
      · rcases List.mem_append.mp hu with hfront | hback
        · exact (htasks u (List.mem_append_left _ hfront)).spared hspares
            (hother u (List.mem_append_left _ hfront))
        · rcases List.mem_cons.mp hback with rfl | hback
          · exact ht
          · exact (htasks u (List.mem_append_right _ (List.mem_cons_of_mem _ hback))).spared hspares
              (hother u (List.mem_append_right _ hback))

/-! ### Lookups one after the other -/

/-- A lookup that is alone makes its steps in a row. -/
theorem worked_resolve (r : Resolver) (front back : List Task) (p : String) {r' : Resolver}
    {tasks : List Task}
    (hrest : Worked (r.resolve p).2 (front ++ .done p (r.resolve p).1 :: back) r' tasks) :
    Worked r (front ++ .waiting p :: back) r' tasks := by
  refine .step ?_
  rw [Resolver.advance]
  rcases consult_cases r p with ⟨result, consulted, hstep, hresolve⟩ | ⟨consulted, hstep, hresolve⟩
  · rw [hresolve] at hrest
    rw [hstep]
    exact hrest
  · rw [hstep]
    refine .step ?_
    rw [Resolver.advance]
    rcases inquire_cases consulted p with ⟨result, asked, hstep', hlookUp⟩ |
      ⟨answer, asked, hstep', hlookUp⟩
    · rw [hresolve, hlookUp] at hrest
      rw [hstep']
      exact hrest
    · rw [hresolve, hlookUp] at hrest
      rw [hstep']
      exact .step hrest

/-- Lookups one after the other are one of the orders in which workers could have made their steps. -/
theorem worked_resolveEach (pending : List String) :
    ∀ (r : Resolver) (earlier : List (String × Except LookupError String)), ∃ results,
      Worked r (ended earlier ++ begun pending) (r.resolveEach pending).2
          (ended (earlier ++ results)) ∧
        match (r.resolveEach pending).1 with
        | .ok found => results = found.map fun entry => (entry.1, .ok entry.2)
        | .error e => ∃ p, (p, .error e) ∈ results := by
  induction pending with
  | nil =>
      intro r earlier
      refine ⟨[], ?_, rfl⟩
      rw [List.append_nil]
      show Worked r (ended earlier ++ []) r (ended earlier)
      rw [List.append_nil]
      exact .rest r _
  | cons p rest ih =>
      intro r earlier
      obtain ⟨results, hworked, hresults⟩ :=
        ih (r.resolve p).2 (earlier ++ [(p, (r.resolve p).1)])
      refine ⟨(p, (r.resolve p).1) :: results, ?_, ?_⟩
      · refine worked_resolve r (ended earlier) (begun rest) p ?_
        have hended : ended (earlier ++ [(p, (r.resolve p).1)]) ++ begun rest
            = ended earlier ++ .done p (r.resolve p).1 :: begun rest := by
          simp [ended]
        rw [hended, List.append_assoc] at hworked
        exact hworked
      · unfold Resolver.resolveEach
        rcases hresolve : r.resolve p with ⟨result, r'⟩
        rw [hresolve] at hresults
        dsimp only at hresults ⊢
        rcases heach : r'.resolveEach rest with ⟨found, r''⟩
        rw [heach] at hresults
        cases result with
        | error e => exact ⟨p, List.mem_cons_self⟩
        | ok name =>
            cases found with
            | error e =>
                obtain ⟨q, hq⟩ := hresults
                exact ⟨q, List.mem_cons_of_mem _ hq⟩
            | ok names => exact congrArg ((p, .ok name) :: ·) hresults

/-! ### Several names -/

theorem cached_frame (r : Resolver) (p : String) :
    ∃ cache, (r.cached p).2 = { r with cache := cache } := by
  unfold Resolver.cached
  cases r.cache.lookup p with
  | none => exact ⟨r.cache, rfl⟩
  | some name => exact ⟨(r.keep p name).cache, rfl⟩

/-- Remembering touches the cache alone. -/
theorem remember_frame (providers : List String) : ∀ r : Resolver,
    ∃ cache, (r.remember providers).2 = { r with cache := cache } := by
  induction providers with
  | nil => exact fun r => ⟨r.cache, rfl⟩
  | cons p rest ih =>
      intro r
      unfold remember
      cases Transport.isAgnostic p with
      | true => exact ih r
      | false =>
          obtain ⟨cache, hcached⟩ := r.cached_frame p
          rw [if_neg (by simp)]
          generalize r.cached p = glimpse at hcached ⊢
          obtain ⟨known, r'⟩ := glimpse
          obtain rfl : r' = { r with cache := cache } := hcached
          obtain ⟨cache', hrest⟩ := ih { r with cache := cache }
          cases known <;> exact ⟨cache', hrest⟩

/-- What is remembered is what a lookup would come to. -/
theorem remember_alone (providers : List String) : ∀ {s : Resolver},
    s.cache.length ≤ s.capacity → (∀ q, s.cache.lookup q = r.cache.lookup q) →
      ((s.remember providers).1.1.map (·.1) ++ (s.remember providers).1.2).Perm providers ∧
        ∀ entry ∈ (s.remember providers).1.1, (r.resolve entry.1).1 = .ok entry.2 := by
  induction providers with
  | nil => exact fun _ _ => ⟨List.Perm.refl _, by simp [remember]⟩
  | cons p rest ih =>
      intro s hbound hlookups
      unfold remember
      cases hagnostic : Transport.isAgnostic p with
      | true =>
          obtain ⟨hperm, hnames⟩ := ih hbound hlookups
          rw [if_pos rfl]
          refine ⟨hperm.cons p, List.forall_mem_cons.mpr ⟨?_, hnames⟩⟩
          rw [resolve_fst, if_pos hagnostic]
      | false =>
          have hlooked : ∀ q, (s.perform (.look p)).cache.lookup q = r.cache.lookup q :=
            fun q => (lookup_look hbound q p).trans (hlookups q)
          obtain ⟨hperm, hnames⟩ := ih (length_look hbound p) hlooked
          rw [if_neg (by simp), cached_eq, hlookups]
          cases hlookup : r.cache.lookup p with
          | none => exact ⟨List.perm_middle.trans (hperm.cons p), hnames⟩
          | some name =>
              refine ⟨hperm.cons p, List.forall_mem_cons.mpr ⟨?_, hnames⟩⟩
              rw [resolve_fst, if_neg (by simp [hagnostic]), hlookup]

/-- The providers that are left are all still to be looked up. -/
theorem remember_unserved (hbound : r.cache.length ≤ r.capacity) (providers : List String) :
    ∀ p ∈ (r.remember providers).1.2, Unserved r (r.remember providers).2 p := by
  obtain ⟨-, hpending, hlookups⟩ := remember_eq providers hbound
  obtain ⟨cache, hframe⟩ := remember_frame providers r
  intro p hp
  rw [hpending] at hp
  obtain ⟨hlooked, hmissing⟩ := List.mem_filter.mp hp
  have hsingle := (List.mem_filter.mp hlooked).2
  refine ⟨⟨?_, ?_, ?_, ?_, hlookups p⟩, by simpa using hsingle, ?_⟩
  · rw [hframe]
  · rw [hframe]
  · rw [hframe]
  · rw [hframe]
  · rw [hlookups]
    exact Option.isNone_iff_eq_none.mp hmissing

/-- So all calls for several names are served by workers. -/
theorem Serves.together_of_many {r' : Resolver} {providers : List String}
    {result : Except LookupError (List (String × String))}
    (hserves : Serves r (.resolveMany providers result) r') (hworkers : r.stage ≠ .withoutWorkers) :
    ∃ names pending remembering results,
      r.remember providers.eraseDups = ((names, pending), remembering) ∧
        Worked remembering (begun pending) r' (ended results) ∧ Collected names results result := by
  cases hserves with
  | together hremember hworked hresult => exact ⟨_, _, _, _, hremember, hworked, hresult⟩
  | inTurn =>
      obtain ⟨cache, hframe⟩ := remember_frame providers.eraseDups r
      unfold resolveMany
      generalize r.remember providers.eraseDups = remembered at hframe ⊢
      obtain ⟨⟨names, pending⟩, remembering⟩ := remembered
      obtain rfl : remembering = { r with cache := cache } := hframe
      have hstage : { r with cache := cache }.stage ≠ .withoutWorkers := hworkers
      obtain ⟨results, hworked, hresults⟩ := worked_resolveEach pending { r with cache := cache } []
      dsimp only
      rw [if_neg fun h => hstage h.1]
      refine ⟨names, pending, _, results, rfl, hworked, ?_⟩
      cases heach : ({ r with cache := cache }.resolveEach pending).1 with
      | error e =>
          rw [heach] at hresults
          obtain ⟨p, hp⟩ := hresults
          exact .stopped hp
      | ok found =>
          rw [heach] at hresults
          exact .named hresults

/-- The cache holds no more than it may, and there are workers if there are to be lookups. -/
structure Within (r : Resolver) : Prop where
  bound : r.cache.length ≤ r.capacity
  workers : r.stage ≠ .withoutWorkers

/-- A call for several names gives each provider what a lookup would have given it when the call
began. -/
theorem Serves.alone {r' : Resolver} {providers : List String}
    {result : Except LookupError (List (String × String))}
    (hserves : Serves r (.resolveMany providers result) r') (hwithin : Within r) :
    (Exchange.resolveMany providers result).Gives r fun p given => given = (r.resolve p).1 := by
  obtain ⟨names, pending, remembering, results, hremember, hworked, hresult⟩ :=
    hserves.together_of_many hwithin.workers
  obtain ⟨hperm, hnames⟩ := remember_alone (r := r) providers.eraseDups hwithin.bound fun _ => rfl
  have hunserved := remember_unserved hwithin.bound providers.eraseDups
  rw [hremember] at hperm hnames hunserved
  have hkeys := hworked.ended_providers
  have hbegun : (begun pending).map Task.provider = pending := by
    unfold begun
    rw [List.map_map]
    exact List.map_id _
  have hnodup : ((begun pending).map Task.provider).Nodup := by
    rw [hbegun]
    exact ((hperm.nodup_iff.mpr (nodup_eraseDups providers)).sublist
      (List.sublist_append_right _ _))
  have hsure := hworked.sure (r := r) hnodup (by
    intro t ht
    obtain ⟨p, hp, rfl⟩ := List.mem_map.mp ht
    exact hunserved p hp)
  have hresults : ∀ entry ∈ results, entry.2 = (r.resolve entry.1).1 :=
    fun entry hentry => (hsure _ (List.mem_map_of_mem hentry)).symm
  cases hresult with
  | named hfound =>
      rw [hfound] at hkeys hresults
      refine named_append hperm ?_ (fun entry hentry => (hnames entry hentry).symm) ?_
      · rw [List.map_map] at hkeys
        exact hkeys
      · intro entry hentry
        exact hresults _ (List.mem_map_of_mem hentry)
  | @stopped p e hstopped =>
      have hpending : p ∈ pending := by
        rw [← hkeys]
        exact List.mem_map_of_mem hstopped
      have hmem := hperm.mem_iff.mp (List.mem_append_right _ hpending)
      exact ⟨p, List.mem_eraseDups.mp hmem, hresults _ hstopped⟩

/-! ### Runs -/

theorem Within.keep (h : Within r) (p answer : String) : Within (r.keep p answer) where
  bound := by
    unfold Resolver.keep
    dsimp only
    rw [List.length_drop]
    omega
  workers := h.workers

theorem Within.cached (h : Within r) (p : String) : Within (r.cached p).2 := by
  unfold Resolver.cached
  cases r.cache.lookup p with
  | none => exact h
  | some name => exact h.keep p name

theorem Within.consult (h : Within r) (p : String) : Within (r.consult p).2 := by
  have hcached := h.cached p
  unfold Resolver.consult
  split
  · exact h
  · generalize r.cached p = glimpse at hcached ⊢
    obtain ⟨known, r'⟩ := glimpse
    cases known <;> exact hcached

theorem Within.advance (h : Within r) (t : Task) : Within (r.advance t).2 := by
  cases t with
  | waiting p => exact h.consult p
  | asking p =>
      show Within (r.inquire p).2
      rcases r.inquire_frame p with hsame | ⟨failures, hasked⟩
      · rw [hsame]
        exact h
      · rw [hasked]
        exact ⟨h.bound, h.workers⟩
  | answered p answer => exact h.keep p answer
  | done p result => exact h

theorem Worked.within {r' : Resolver} {tasks tasks' : List Task}
    (hworked : Worked r tasks r' tasks') (h : Within r) : Within r' := by
  induction hworked with
  | rest => exact h
  | step _ ih => exact ih (h.advance _)

theorem Within.remember (providers : List String) : ∀ {r : Resolver}, Within r →
    Within (r.remember providers).2 := by
  induction providers with
  | nil => exact fun h => h
  | cons p rest ih =>
      intro r h
      unfold Resolver.remember
      cases Transport.isAgnostic p with
      | true => exact ih h
      | false =>
          have hcached := h.cached p
          rw [if_neg (by simp)]
          generalize r.cached p = glimpse at hcached ⊢
          obtain ⟨known, r'⟩ := glimpse
          cases known <;> exact ih hcached

theorem Serves.within {r' : Resolver} {call : Exchange} (hserves : Serves r call r')
    (h : Within r) : Within r' := by
  cases call with
  | resolve p result =>
      cases hserves
      exact (worked_resolve r [] [] p (.rest _ _)).within h
  | resolveMany providers result =>
      obtain ⟨names, pending, remembering, results, hremember, hworked, -⟩ :=
        hserves.together_of_many h.workers
      have hremembering := h.remember providers.eraseDups
      rw [hremember] at hremembering
      exact hworked.within hremembering
  | cached p known =>
      cases hserves
      exact h.cached p
  | close =>
      cases hserves
      exact ⟨h.bound, nofun⟩

theorem Runs.within {registry : Registry} {endpoint : String} {capacity workers : Int}
    {r₀ : Resolver} {calls : List Exchange}
    (hfresh : ofRegistry registry endpoint capacity workers = .ok r₀) (hrun : Runs r₀ calls r) :
    Within r := by
  induction hrun with
  | start =>
      obtain ⟨hstart, -⟩ := fresh_of_ofRegistry hfresh
      refine ⟨?_, ?_⟩
      · rw [hstart.cache]
        exact Nat.zero_le _
      · rw [hstart.stage]
        nofun
  | call _ hserves ih => exact hserves.within ih

end Resolver

end RetrievalTelemetry
