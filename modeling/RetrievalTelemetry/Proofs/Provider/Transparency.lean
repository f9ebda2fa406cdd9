/-
The cache does not show.

With a registry that replies to each provider always the same, no call can tell whether an answer
was kept or asked for again.  Whatever was called before, in whatever order the workers made their
steps and whatever the cache forgot in the meantime, a lookup gives the first name that the registry
lists, and nothing if there is none or if it fails.  Once all lookups were ended, a call may give
nothing instead of the name, and no request is sent.

There is an exception.  Two things stop a lookup instead of making it fail: an address that is
malformed, be it that of the registry or one that the provider makes too long, and a reply that is
nested too deep.  They stop every lookup of the provider in the same way, and of several lookups the
call as a whole.
-/
import Mathlib.Data.List.Dedup
import RetrievalTelemetry.Proofs.Provider.Replies
import RetrievalTelemetry.Proofs.Provider.Workers

namespace RetrievalTelemetry

namespace Resolver

/-! ### Several names -/

/-- Each of the providers has one entry, with a name that is allowed. -/
structure Named (allowed : String → Except LookupError String → Prop) (providers : List String)
    (names : List (String × String)) : Prop where
  nodup : (names.map (·.1)).Nodup
  mem : ∀ provider, provider ∈ names.map (·.1) ↔ provider ∈ providers
  allowed : ∀ entry ∈ names, allowed entry.1 (.ok entry.2)

variable {r₀ r : Resolver}

theorem nodup_eraseDups (providers : List String) : providers.eraseDups.Nodup := by
  generalize hlength : providers.length = n
  induction n using Nat.strongRecOn generalizing providers with
  | ind n ih =>
      cases providers with
      | nil => exact List.nodup_nil
      | cons provider rest =>
          have hle := List.length_filter_le (fun p => !p == provider) rest
          rw [List.length_cons] at hlength
          rw [List.eraseDups_cons, List.nodup_cons]
          refine ⟨?_, ih _ (by omega) _ rfl⟩
          rw [List.mem_eraseDups]
          simp

/-- Names that need no lookup, and the providers that are left. -/
theorem Faithful.remember (providers : List String) : ∀ {r : Resolver}, Faithful r₀ r →
    ((r.remember providers).1.1.map (·.1) ++ (r.remember providers).1.2).Perm providers ∧
      (∀ entry ∈ (r.remember providers).1.1, r₀.Allowed r.stage entry.1 (.ok entry.2)) ∧
      Follows r₀ r (r.remember providers).2 := by
  induction providers with
  | nil => exact fun h => ⟨List.Perm.refl _, by simp [Resolver.remember], Follows.refl h⟩
  | cons provider rest ih =>
      intro r h
      obtain ⟨hknown, hfollows⟩ :
          (∀ a, (if Transport.isAgnostic provider then (some "", r) else r.cached provider).1
            = some a → r₀.Allowed r.stage provider (.ok a)) ∧
          Follows r₀ r
            (if Transport.isAgnostic provider then (some "", r) else r.cached provider).2 := by
        cases hagnostic : Transport.isAgnostic provider with
        | true =>
            refine ⟨fun a ha => ?_, Follows.refl h⟩
            cases ha
            exact allowed_agnostic hagnostic r.stage
        | false =>
            obtain ⟨hhit, hfollows⟩ := h.cached provider
            refine ⟨fun a ha => ?_, hfollows⟩
            obtain ⟨hdefinitive, rfl⟩ := hhit a ha
            exact hdefinitive.allowed r.stage
      unfold Resolver.remember
      generalize (if Transport.isAgnostic provider then (some "", r) else r.cached provider)
        = glimpse at hknown hfollows ⊢
      obtain ⟨known, r'⟩ := glimpse
      obtain ⟨hperm, hallowed, hrest⟩ := ih hfollows.faithful
      rw [hfollows.stage] at hallowed
      dsimp only at hperm hallowed hrest ⊢
      rcases hremember : r'.remember rest with ⟨⟨names, pending⟩, r''⟩
      rw [hremember] at hperm hallowed hrest
      cases known with
      | some a =>
          refine ⟨hperm.cons provider, ?_, hfollows.trans hrest⟩
          exact List.forall_mem_cons.mpr ⟨hknown a rfl, hallowed⟩
      | none =>
          exact ⟨List.perm_middle.trans (hperm.cons provider), hallowed, hfollows.trans hrest⟩

/-- Lookups one after the other. -/
theorem Faithful.resolveEach (providers : List String) : ∀ {r : Resolver}, Faithful r₀ r →
    Follows r₀ r (r.resolveEach providers).2 ∧
      match (r.resolveEach providers).1 with
      | .ok names => names.map (·.1) = providers ∧
          ∀ entry ∈ names, r₀.Allowed r.stage entry.1 (.ok entry.2)
      | .error e => ∃ provider ∈ providers, r₀.Allowed r.stage provider (.error e) := by
  induction providers with
  | nil => exact fun h => ⟨Follows.refl h, rfl, by simp⟩
  | cons provider rest ih =>
      intro r h
      obtain ⟨hallowed, hfollows⟩ := h.resolve provider
      unfold Resolver.resolveEach
      rcases hresolve : r.resolve provider with ⟨result, r'⟩
      rw [hresolve] at hallowed hfollows
      obtain ⟨hrest, hresults⟩ := ih hfollows.faithful
      dsimp only at hrest hresults ⊢
      rcases heach : r'.resolveEach rest with ⟨results, r''⟩
      rw [heach] at hrest hresults
      refine ⟨hfollows.trans hrest, ?_⟩
      rw [hfollows.stage] at hresults
      cases result with
      | error e => exact ⟨provider, List.mem_cons_self, hallowed⟩
      | ok name =>
          cases results with
          | error e =>
              obtain ⟨p, hp, hstopped⟩ := hresults
              exact ⟨p, List.mem_cons_of_mem _ hp, hstopped⟩
          | ok names =>
              obtain ⟨hkeys, hnames⟩ := hresults
              refine ⟨congrArg (provider :: ·) hkeys, ?_⟩
              exact List.forall_mem_cons.mpr ⟨hallowed, hnames⟩

/-- What was remembered and what was found make up the names of all providers. -/
theorem named_append {allowed : String → Except LookupError String → Prop}
    {providers pending : List String} {names found : List (String × String)}
    (hperm : (names.map (·.1) ++ pending).Perm providers.eraseDups)
    (hfound : found.map (·.1) = pending) (hnames : ∀ entry ∈ names, allowed entry.1 (.ok entry.2))
    (hallowed : ∀ entry ∈ found, allowed entry.1 (.ok entry.2)) :
    Named allowed providers (names ++ found) := by
  rw [← hfound, ← List.map_append] at hperm
  refine ⟨hperm.nodup_iff.mpr (nodup_eraseDups providers), fun provider => ?_, ?_⟩
  · rw [hperm.mem_iff, List.mem_eraseDups]
  · exact List.forall_mem_append.mpr ⟨hnames, hallowed⟩

/-! ### Calls -/

/-- A call and what it gave. -/
inductive Exchange where
  | resolve (provider : String) (result : Except LookupError String)
  | resolveMany (providers : List String) (result : Except LookupError (List (String × String)))
  | cached (provider : String) (kept : Option String)
  | close

/-- What a call gives is allowed for each provider that it names, and only answers are kept. -/
def Exchange.Gives (r₀ : Resolver) (allowed : String → Except LookupError String → Prop) :
    Exchange → Prop
  | resolve provider result => allowed provider result
  | resolveMany providers (.ok names) => Named allowed providers names
  | resolveMany providers (.error e) => ∃ provider ∈ providers, allowed provider (.error e)
  | cached provider kept => ∀ a, kept = some a → r₀.IsDefinitive provider ∧ a = r₀.answer provider
  | close => True

/-- If nothing stops any of the lookups, all providers have their names. -/
theorem Exchange.Gives.names {providers : List String}
    {result : Except LookupError (List (String × String))} {name : String → String}
    (h : (Exchange.resolveMany providers result).Gives r₀
      fun provider result => result = r₀.expected provider)
    (hname : ∀ provider ∈ providers, r₀.expected provider = .ok (name provider)) :
    ∃ names, result = .ok names ∧ ∀ provider ∈ providers, (provider, name provider) ∈ names := by
  cases result with
  | error e =>
      obtain ⟨provider, hmem, hstopped⟩ := h
      rw [hname provider hmem] at hstopped
      cases hstopped
  | ok names =>
      refine ⟨names, rfl, fun provider hmem => ?_⟩
      obtain ⟨entry, hentry, rfl⟩ := List.mem_map.mp ((h.mem provider).mpr hmem)
      have hallowed := h.allowed entry hentry
      rw [hname entry.1 hmem] at hallowed
      rw [← Except.ok.inj hallowed]
      exact hentry

/-- What the names of several lookups are that came to their end, given those that needed none; if any
of them was stopped, so is the whole. -/
inductive Collected (names : List (String × String))
    (results : List (String × Except LookupError String)) :
    Except LookupError (List (String × String)) → Prop
  | named {found : List (String × String)} :
    results = found.map (fun entry => (entry.1, .ok entry.2)) →
    Collected names results (.ok (names ++ found))
  | stopped {provider : String} {e : LookupError} :
    (provider, .error e) ∈ results → Collected names results (.error e)

/-- A resolver serves a call.  Several names are looked up one after the other, or by workers that make
their steps in any order. -/
inductive Serves : Resolver → Exchange → Resolver → Prop
  | resolve (r : Resolver) (provider : String) :
    Serves r (.resolve provider (r.resolve provider).1) (r.resolve provider).2
  | inTurn (r : Resolver) (providers : List String) :
    Serves r (.resolveMany providers (r.resolveMany providers).1) (r.resolveMany providers).2
  | together {r r' : Resolver} {providers pending : List String} {names : List (String × String)}
    {remembering : Resolver} {results : List (String × Except LookupError String)}
    {result : Except LookupError (List (String × String))} :
    r.remember providers.eraseDups = ((names, pending), remembering) →
    Worked remembering (begun pending) r' (ended results) →
    Collected names results result →
    Serves r (.resolveMany providers result) r'
  | cached (r : Resolver) (provider : String) :
    Serves r (.cached provider (r.cached provider).1) (r.cached provider).2
  | close (r : Resolver) : Serves r .close r.close

theorem exists_collected (names : List (String × String))
    (results : List (String × Except LookupError String)) :
    ∃ result, Collected names results result := by
  have hsplit : (∃ provider e, (provider, Except.error e) ∈ results) ∨
      ∃ found : List (String × String), results = found.map fun entry => (entry.1, .ok entry.2) := by
    induction results with
    | nil => exact Or.inr ⟨[], rfl⟩
    | cons head rest ih =>
        obtain ⟨provider, result⟩ := head
        cases result with
        | error e => exact Or.inl ⟨provider, e, List.mem_cons_self⟩
        | ok name =>
            rcases ih with ⟨p, e, hmem⟩ | ⟨found, rfl⟩
            · exact Or.inl ⟨p, e, List.mem_cons_of_mem _ hmem⟩
            · exact Or.inr ⟨(provider, name) :: found, rfl⟩
  rcases hsplit with ⟨provider, e, hmem⟩ | ⟨found, hfound⟩
  · exact ⟨_, .stopped hmem⟩
  · exact ⟨_, .named hfound⟩

/-- However far the workers got, they can finish what they began, and then the call is served. -/
theorem exists_serves {r remembering r' : Resolver} {providers pending : List String}
    {names : List (String × String)} {tasks : List Task}
    (hremember : r.remember providers.eraseDups = ((names, pending), remembering))
    (hworked : Worked remembering (begun pending) r' tasks) :
    ∃ results result r'', Worked r' tasks r'' (ended results) ∧
      Serves r (.resolveMany providers result) r'' := by
  obtain ⟨r'', results, hrest⟩ := exists_ended tasks r' []
  obtain ⟨result, hresult⟩ := exists_collected names results
  exact ⟨results, result, r'', hrest, .together hremember (hworked.trans hrest) hresult⟩

/-- A run of calls. -/
inductive Runs (r₀ : Resolver) : List Exchange → Resolver → Prop
  | start : Runs r₀ [] r₀
  | call {calls : List Exchange} {call : Exchange} {r r' : Resolver} :
    Runs r₀ calls r → Serves r call r' → Runs r₀ (calls ++ [call]) r'

theorem Faithful.resolveMany (h : Faithful r₀ r) (hworkers : r.stage ≠ .withoutWorkers)
    (providers : List String) :
    (Exchange.resolveMany providers (r.resolveMany providers).1).Gives r₀ (r₀.Allowed r.stage) ∧
      Follows r₀ r (r.resolveMany providers).2 := by
  obtain ⟨hperm, hnames, hfollows⟩ := h.remember providers.eraseDups
  unfold Resolver.resolveMany
  rcases hremember : r.remember providers.eraseDups with ⟨⟨names, pending⟩, r'⟩
  rw [hremember] at hperm hnames hfollows
  obtain ⟨hrest, hresults⟩ := hfollows.faithful.resolveEach pending
  have hstage : ¬(r'.stage = .withoutWorkers ∧ 2 ≤ pending.length) := by
    rintro ⟨hstage, -⟩
    exact hworkers (hfollows.stage.symm.trans hstage)
  dsimp only at hperm hnames hfollows hrest hresults ⊢
  rw [if_neg hstage]
  rcases heach : r'.resolveEach pending with ⟨results, r''⟩
  rw [heach] at hrest hresults
  refine ⟨?_, hfollows.trans hrest⟩
  rw [hfollows.stage] at hresults
  cases results with
  | error e =>
      obtain ⟨provider, hprovider, hstopped⟩ := hresults
      have hmem := hperm.mem_iff.mp (List.mem_append_right _ hprovider)
      exact ⟨provider, List.mem_eraseDups.mp hmem, hstopped⟩
  | ok found =>
      obtain ⟨hkeys, hfound⟩ := hresults
      exact named_append hperm hkeys hnames hfound

theorem Faithful.together (h : Faithful r₀ r) {r' remembering : Resolver}
    {providers pending : List String} {names : List (String × String)}
    {results : List (String × Except LookupError String)}
    {result : Except LookupError (List (String × String))}
    (hremember : r.remember providers.eraseDups = ((names, pending), remembering))
    (hworked : Worked remembering (begun pending) r' (ended results))
    (hresult : Collected names results result) :
    (Exchange.resolveMany providers result).Gives r₀ (r₀.Allowed r.stage) ∧ Follows r₀ r r' := by
  obtain ⟨hperm, hnames, hfollows⟩ := h.remember providers.eraseDups
  rw [hremember] at hperm hnames hfollows
  obtain ⟨hkeys, hallowed, hrest⟩ := hworked.results hfollows.faithful
  rw [hfollows.stage] at hallowed
  refine ⟨?_, hfollows.trans hrest⟩
  cases hresult with
  | named hfound =>
      rw [hfound] at hkeys hallowed
      refine named_append hperm ?_ hnames ?_
      · rw [List.map_map] at hkeys
        exact hkeys
      · intro entry hentry
        exact hallowed _ (List.mem_map_of_mem hentry)
  | @stopped provider e hstopped =>
      have hprovider : provider ∈ pending := by
        rw [← hkeys]
        exact List.mem_map_of_mem hstopped
      have hmem := hperm.mem_iff.mp (List.mem_append_right _ hprovider)
      exact ⟨provider, List.mem_eraseDups.mp hmem, hallowed _ hstopped⟩

/-- What a call gives and leaves behind. -/
theorem Serves.gives {r' : Resolver} {call : Exchange} (hserves : Serves r call r')
    (h : Faithful r₀ r) (hworkers : r.stage ≠ .withoutWorkers) :
    call.Gives r₀ (r₀.Allowed r.stage) ∧
      (Follows r₀ r r' ∧ call ≠ .close ∨ r' = r.close ∧ call = .close) := by
  cases hserves with
  | resolve provider =>
      obtain ⟨hallowed, hfollows⟩ := h.resolve provider
      exact ⟨hallowed, Or.inl ⟨hfollows, nofun⟩⟩
  | inTurn providers =>
      obtain ⟨hgives, hfollows⟩ := h.resolveMany hworkers providers
      exact ⟨hgives, Or.inl ⟨hfollows, nofun⟩⟩
  | together hremember hworked hresult =>
      obtain ⟨hgives, hfollows⟩ := h.together hremember hworked hresult
      exact ⟨hgives, Or.inl ⟨hfollows, nofun⟩⟩
  | cached provider =>
      obtain ⟨hhit, hfollows⟩ := h.cached provider
      exact ⟨hhit, Or.inl ⟨hfollows, nofun⟩⟩
  | close => exact ⟨trivial, Or.inr ⟨rfl, rfl⟩⟩

/-! ### Runs -/

/-- There is a resolver for every registry, of every positive size and with any positive number of
workers. -/
theorem exists_ofRegistry (registry : Registry) (endpoint : String) {capacity workers : Int}
    (hcapacity : 0 < capacity) (hworkers : 0 < workers) :
    ∃ r₀, ofRegistry registry endpoint capacity workers = .ok r₀ ∧ r₀.registry = registry ∧
      r₀.endpoint = Text.dropTrailing '/' endpoint := by
  unfold ofRegistry
  rw [if_neg (by omega), if_neg (by omega)]
  exact ⟨_, rfl, rfl, rfl⟩

theorem faithful_of_ofRegistry (reply : String → Reply) {endpoint : String} {capacity workers : Int}
    (h : ofRegistry (fun provider _ => reply provider) endpoint capacity workers = .ok r₀) :
    Faithful r₀ r₀ ∧ r₀.stage = .running := by
  unfold ofRegistry at h
  split at h
  · cases h
  · split at h
    · cases h
    · cases h
      exact ⟨⟨fun _ _ => rfl, rfl, rfl, by simp⟩, rfl⟩

/-- There is an address to which a request goes, unless the provider makes it too long. -/
theorem exists_request {r : Resolver} {p : String}
    (h : r.endpoint = Text.dropTrailing '/' "https://registry.test")
    (hfits : ("peerid=" ++ Text.formEncoded p).length ≤ WebAddress.maxLength) :
    ∃ address, r.request? p = some address ∧ address.isComplete = true := by
  have hslash : Text.dropTrailing '/' "https://registry.test" = "https://registry.test" := by
    decide +kernel
  have hparts : ((WebAddress.ofText? ("https://registry.test" ++ "/sp")).all fun a =>
      a.isComplete && [a.scheme, a.authority, a.path, a.fragment.getD ""].all fun part =>
        part.length ≤ WebAddress.maxLength) = true := by decide +kernel
  have hsome : (WebAddress.ofText? ("https://registry.test" ++ "/sp")).isSome = true := by
    decide +kernel
  unfold request? destination?
  rw [h, hslash]
  obtain ⟨a, ha⟩ := Option.isSome_iff_exists.mp hsome
  rw [ha, Option.all_some] at hparts
  obtain ⟨hcomplete, hall⟩ := (Bool.and_eq_true _ _).mp hparts
  refine ⟨{ a with query := some ("peerid=" ++ Text.formEncoded p) }, ?_, hcomplete⟩
  rw [ha, Option.bind_some, if_pos hcomplete, Option.bind_some]
  refine if_pos ?_
  rw [List.all_eq_true] at hall
  unfold WebAddress.fits
  rw [List.all_eq_true]
  intro part hpart
  simp only [List.mem_cons, List.not_mem_nil, or_false, Option.getD_some] at hpart hall
  rcases hpart with rfl | rfl | rfl | rfl | rfl
  · exact hall _ (Or.inl rfl)
  · exact hall _ (Or.inr (Or.inl rfl))
  · exact hall _ (Or.inr (Or.inr (Or.inl rfl)))
  · exact decide_eq_true hfits
  · exact hall _ (Or.inr (Or.inr (Or.inr rfl)))

/-- After a run the resolver is faithful still, and it sends requests unless it was closed. -/
theorem Runs.invariant {calls : List Exchange} (hrun : Runs r₀ calls r) (h : Faithful r₀ r₀)
    (hstage : r₀.stage = .running) :
    Faithful r₀ r ∧ r.stage ≠ .withoutWorkers ∧ (r.stage = .closed ↔ .close ∈ calls) := by
  induction hrun with
  | start => exact ⟨h, by simp [hstage], by simp [hstage]⟩
  | @call calls call r r' _ hserves ih =>
      obtain ⟨hfaithful, hworkers, hclosed⟩ := ih
      rcases (hserves.gives hfaithful hworkers).2 with ⟨hfollows, hcall⟩ | ⟨rfl, rfl⟩
      · refine ⟨hfollows.faithful, by rwa [hfollows.stage], ?_⟩
        rw [hfollows.stage, hclosed, List.mem_append, List.mem_singleton]
        exact ⟨Or.inl, fun hmem => hmem.resolve_right fun heq => hcall heq.symm⟩
      · refine ⟨⟨hfaithful.fixed, hfaithful.registry, hfaithful.endpoint, hfaithful.kept⟩, ?_, ?_⟩
        · exact nofun
        · exact iff_of_true rfl (by simp)

/-- Every call of every run gives what a lookup without a cache would give: the answer, or what
stops the lookup.  Once the resolver was closed it gives the answer or nothing, and no request is
sent. -/
theorem calls_transparent {reply : String → Reply} {endpoint : String} {capacity workers : Int}
    {calls : List Exchange} {call : Exchange} {r' : Resolver}
    (hfresh : ofRegistry (fun provider _ => reply provider) endpoint capacity workers = .ok r₀)
    (hrun : Runs r₀ calls r) (hserves : Serves r call r') :
    (.close ∉ calls → call.Gives r₀ fun provider result => result = r₀.expected provider) ∧
      (.close ∈ calls →
        (call.Gives r₀ fun provider result =>
          result = .ok (r₀.answer provider) ∨ result = .ok "") ∧
        r'.requests = r.requests) := by
  obtain ⟨hfaithful₀, hstage₀⟩ := faithful_of_ofRegistry reply hfresh
  obtain ⟨hfaithful, hworkers, hclosed⟩ := hrun.invariant hfaithful₀ hstage₀
  obtain ⟨hgives, hleaves⟩ := hserves.gives hfaithful hworkers
  constructor
  · intro hopen
    have hallowed : r₀.Allowed r.stage = fun provider result => result = r₀.expected provider := by
      funext provider result
      exact if_neg fun h => hopen (hclosed.mp h)
    rwa [hallowed] at hgives
  · intro hclose
    have hstage := hclosed.mpr hclose
    have hallowed : r₀.Allowed r.stage = fun provider result =>
        result = .ok (r₀.answer provider) ∨ result = .ok "" := by
      funext provider result
      exact if_pos hstage
    rw [hallowed] at hgives
    refine ⟨hgives, ?_⟩
    rcases hleaves with ⟨hfollows, -⟩ | ⟨rfl, -⟩
    · exact hfollows.silent hstage
    · rfl

/-- A name that was found by a lookup is given to a later call for several, and a provider that the
registry does not reply about has none.  After the end no request is sent. -/
theorem calls_transparent_kept :
    let reply := fun provider =>
      if provider = "p" then Reply.response 200 "[\"f01\"]".toUTF8 else .unreachable
    ∃ r₀ names, ofRegistry (fun provider _ => reply provider) "https://registry.test" 1 2 = .ok r₀ ∧
      ((r₀.resolve "p").2.resolveMany ["q", "p"]).1 = .ok names ∧
      ("p", "f01") ∈ names ∧ ("q", "") ∈ names ∧
      ((r₀.resolve "p").2.close.resolve "q").2.requests = (r₀.resolve "p").2.requests := by
  intro reply
  obtain ⟨r₀, hfresh, hregistry, hendpoint⟩ :=
    exists_ofRegistry (fun provider _ => reply provider) "https://registry.test"
      (show (0 : Int) < 1 by decide) (show (0 : Int) < 2 by decide)
  have hp : r₀.expected "p" = .ok "f01" := by
    obtain ⟨address, haddress, hcomplete⟩ :=
      exists_request (p := "p") hendpoint (by decide +kernel)
    have hreply : r₀.registry "p" 0 = .response 200 "[\"f01\"]".toUTF8 := by
      rw [hregistry]
      exact if_pos rfl
    rw [expected_single (by decide), outcome_of_complete haddress hcomplete, hreply, Reply.names?_one]
    rfl
  have hq : r₀.expected "q" = .ok "" := by
    obtain ⟨address, haddress, hcomplete⟩ :=
      exists_request (p := "q") hendpoint (by decide +kernel)
    have hreply : r₀.registry "q" 0 = .unreachable := by
      rw [hregistry]
      exact if_neg (by decide)
    rw [expected_single (by decide), outcome_of_complete haddress hcomplete, hreply]
    rfl
  have hnames : ∀ provider ∈ ["q", "p"],
      r₀.expected provider = .ok (if provider = "p" then "f01" else "") := by
    simp [hp, hq]
  have hrun : Runs r₀ [.resolve "p" (r₀.resolve "p").1] (r₀.resolve "p").2 :=
    .call .start (.resolve r₀ "p")
  have hmany := (calls_transparent hfresh hrun (.inTurn _ ["q", "p"])).1 (by simp)
  have hclosed := (calls_transparent hfresh (.call hrun (.close _)) (.resolve _ "q")).2 (by simp)
  obtain ⟨names, hresult, hentries⟩ := hmany.names hnames
  exact ⟨r₀, names, hfresh, hresult, hentries "p" (by simp), hentries "q" (by simp), hclosed.2⟩

/-- A reply that is nested too deep stops a lookup, although it has no name to give.  Every other reply
without names leaves the provider without one. -/
theorem stopped_by_deep_reply :
    ∃ r₀, ofRegistry (fun _ _ => .response 200 (Json.nested 100000).toUTF8)
        "https://registry.test" 100 1 = .ok r₀ ∧
      r₀.answer "p" = "" ∧ (r₀.resolve "p").1 = .error .deepReply := by
  obtain ⟨r₀, hfresh, hregistry, hendpoint⟩ :=
    exists_ofRegistry (fun _ _ => .response 200 (Json.nested 100000).toUTF8) "https://registry.test"
      (show (0 : Int) < 100 by decide) (show (0 : Int) < 1 by decide)
  obtain ⟨address, haddress, hcomplete⟩ :=
    exists_request (p := "p") hendpoint (by decide +kernel)
  have houtcome : r₀.outcome "p" = .error .deepReply := by
    rw [outcome_of_complete haddress hcomplete, hregistry, Reply.names?_nested (by decide)]
    rfl
  have hsingle : Transport.isAgnostic "p" = false := by decide
  obtain ⟨hfaithful, hstage⟩ := faithful_of_ofRegistry
    (fun _ => .response 200 (Json.nested 100000).toUTF8) hfresh
  have hallowed := (hfaithful.resolve "p").1
  unfold Allowed at hallowed
  rw [if_neg (by rw [hstage]; nofun), expected_single hsingle, houtcome] at hallowed
  refine ⟨r₀, hfresh, ?_, hallowed⟩
  unfold answer
  rw [if_neg (by simp [hsingle]), houtcome]

end Resolver

end RetrievalTelemetry
