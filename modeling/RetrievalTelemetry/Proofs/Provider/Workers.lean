/-
Lookups, step by step.

Several workers can look up names at the same time.  Each of them touches the resolver three
times at most: it looks into the cache, it asks the registry, and it keeps the answer.  Between
two of these steps the others may do theirs.  `advance` is one such step, and `Worked` any order of
the steps of several lookups; a lookup that is alone makes its three steps in a row, which is
`resolve`.

The registry replies to each provider always the same.  Then there is one thing that a lookup can
come to, and `Faithful` says that the cache holds nothing else.  Each step of each lookup keeps that,
whatever the others do, and so it arrives where it would arrive alone.
-/
import RetrievalTelemetry.Provider.Resolver

namespace RetrievalTelemetry

namespace Resolver

/-! ### What a lookup comes to -/

/-- The names that the registry lists for a provider, none if the lookup fails; or what stops the
lookup. -/
def outcome (r : Resolver) (provider : String) : Except LookupError (Option (List String)) :=
  match r.request? provider with
  | none => .error .malformedAddress
  | some address =>
    if address.isComplete then (r.registry provider 0).names?.mapError fun _ => .deepReply
    else .ok none

/-- The first name that is listed.  It is empty if there is none, if the lookup does not succeed, and
for a provider that stands for no single one. -/
def answer (r : Resolver) (provider : String) : String :=
  if Transport.isAgnostic provider then ""
  else
    match r.outcome provider with
    | .ok (some (name :: _)) => name
    | _ => ""

/-- What stops the lookup of a provider. -/
def stopped? (r : Resolver) (provider : String) : Option LookupError :=
  if Transport.isAgnostic provider then none
  else
    match r.outcome provider with
    | .error e => some e
    | .ok _ => none

/-- The answer, unless the lookup is stopped. -/
def expected (r : Resolver) (provider : String) : Except LookupError String :=
  match r.stopped? provider with
  | some e => .error e
  | none => .ok (r.answer provider)

/-- The registry has a list of names for a single provider. -/
def IsDefinitive (r : Resolver) (provider : String) : Prop :=
  Transport.isAgnostic provider = false ∧ ∃ names, r.outcome provider = .ok (some names)

/-- What a lookup may come to: before the end of all lookups the one thing expected, and afterwards the
answer or nothing. -/
def Allowed (r : Resolver) (stage : ResolverStage) (provider : String)
    (result : Except LookupError String) : Prop :=
  if stage = .closed then result = .ok (r.answer provider) ∨ result = .ok ""
  else result = r.expected provider

variable {r₀ r : Resolver}

theorem outcome_of_complete {provider : String} {address : WebAddress}
    (haddress : r₀.request? provider = some address) (hcomplete : address.isComplete = true) :
    r₀.outcome provider = (r₀.registry provider 0).names?.mapError fun _ => .deepReply := by
  unfold outcome
  rw [haddress]
  exact if_pos hcomplete

/-- A lookup is stopped by an address that is malformed and by a reply that is nested too deep, and
by nothing else. -/
theorem stopped?_eq_none_iff {provider : String} (hsingle : Transport.isAgnostic provider = false) :
    r₀.stopped? provider = none ↔ ∃ address, r₀.request? provider = some address ∧
      (address.isComplete = true → ∃ names, (r₀.registry provider 0).names? = .ok names) := by
  unfold stopped?
  rw [if_neg (by simp [hsingle])]
  cases haddress : r₀.request? provider with
  | none => simp [outcome, haddress]
  | some address =>
      cases hcomplete : address.isComplete with
      | false => simp [outcome, haddress, hcomplete]
      | true =>
          rw [outcome_of_complete haddress hcomplete]
          cases (r₀.registry provider 0).names? with
          | error e =>
              refine iff_of_false nofun ?_
              rintro ⟨_, hsome, hnames⟩
              cases hsome
              obtain ⟨names, hnames⟩ := hnames hcomplete
              cases hnames
          | ok names => exact iff_of_true rfl ⟨address, rfl, fun _ => ⟨names, rfl⟩⟩

theorem expected_agnostic {provider : String} (h : Transport.isAgnostic provider = true) :
    r₀.expected provider = .ok "" ∧ r₀.answer provider = "" := by
  unfold expected answer stopped?
  rw [if_pos h, if_pos h]
  exact ⟨rfl, rfl⟩

theorem expected_single {provider : String} (hsingle : Transport.isAgnostic provider = false) :
    r₀.expected provider = (r₀.outcome provider).map fun names =>
      (names.map fun names => names.head?.getD "").getD "" := by
  unfold expected stopped? answer
  rw [if_neg (by simp [hsingle]), if_neg (by simp [hsingle])]
  cases r₀.outcome provider with
  | error e => rfl
  | ok names =>
      cases names with
      | none => rfl
      | some names => cases names <;> rfl

theorem IsDefinitive.expected {provider : String} (h : r₀.IsDefinitive provider) :
    r₀.expected provider = .ok (r₀.answer provider) := by
  obtain ⟨hsingle, names, hnames⟩ := h
  unfold Resolver.expected stopped?
  rw [if_neg (by simp [hsingle]), hnames]

theorem allowed_agnostic {provider : String} (h : Transport.isAgnostic provider = true)
    (stage : ResolverStage) : r₀.Allowed stage provider (.ok "") := by
  unfold Allowed
  split
  · exact Or.inr rfl
  · exact (expected_agnostic h).1.symm

/-- What the cache holds is allowed at all times. -/
theorem IsDefinitive.allowed {provider : String} (h : r₀.IsDefinitive provider)
    (stage : ResolverStage) : r₀.Allowed stage provider (.ok (r₀.answer provider)) := by
  unfold Allowed
  split
  · exact Or.inl rfl
  · exact h.expected.symm

/-! ### The cache -/

/-- The resolver asks the same registry as `r₀`, which replies to each provider always the same, and it
keeps no answers but those of that registry. -/
structure Faithful (r₀ r : Resolver) : Prop where
  fixed : ∀ provider earlier, r₀.registry provider earlier = r₀.registry provider 0
  registry : r.registry = r₀.registry
  endpoint : r.endpoint = r₀.endpoint
  kept : ∀ entry ∈ r.cache, r₀.IsDefinitive entry.1 ∧ entry.2 = r₀.answer entry.1

/-- What everything that a resolver does leaves as it is. -/
structure Follows (r₀ r r' : Resolver) : Prop where
  faithful : Faithful r₀ r'
  stage : r'.stage = r.stage
  silent : r.stage = .closed → r'.requests = r.requests

theorem Follows.refl (h : Faithful r₀ r) : Follows r₀ r r := ⟨h, rfl, fun _ => rfl⟩

theorem Follows.trans {r' r'' : Resolver} (h : Follows r₀ r r') (h' : Follows r₀ r' r'') :
    Follows r₀ r r'' where
  faithful := h'.faithful
  stage := h'.stage.trans h.stage
  silent hclosed := (h'.silent (h.stage.trans hclosed)).trans (h.silent hclosed)

/-- An answer of the registry may be kept. -/
theorem Faithful.keep (h : Faithful r₀ r) {provider : String} (hdefinitive : r₀.IsDefinitive provider) :
    Follows r₀ r (r.keep provider (r₀.answer provider)) where
  faithful :=
    { fixed := h.fixed
      registry := h.registry
      endpoint := h.endpoint
      kept := by
        intro entry hentry
        rcases List.mem_append.mp (List.mem_of_mem_drop hentry) with hold | hnew
        · exact h.kept entry (List.mem_filter.mp hold).1
        · rw [List.mem_singleton.mp hnew]
          exact ⟨hdefinitive, rfl⟩ }
  stage := rfl
  silent _ := rfl

/-- What is kept for a provider is the answer of the registry. -/
theorem Faithful.cached (h : Faithful r₀ r) (provider : String) :
    (∀ a, (r.cached provider).1 = some a → r₀.IsDefinitive provider ∧ a = r₀.answer provider) ∧
      Follows r₀ r (r.cached provider).2 := by
  unfold Resolver.cached
  cases hlookup : r.cache.lookup provider with
  | none => exact ⟨nofun, Follows.refl h⟩
  | some a =>
      obtain ⟨front, back, hcache, -⟩ := List.lookup_eq_some_iff.mp hlookup
      obtain ⟨hdefinitive, ha⟩ := h.kept (provider, a) (by simp [hcache])
      refine ⟨?_, ?_⟩
      · intro a' ha'
        cases ha'
        exact ⟨hdefinitive, ha⟩
      · obtain rfl : a = r₀.answer provider := ha
        exact h.keep hdefinitive

theorem request?_congr (h : r.endpoint = r₀.endpoint) (provider : String) :
    r.request? provider = r₀.request? provider := by
  unfold request? destination?
  rw [h]

/-- A request that is sent comes to the outcome. -/
theorem Faithful.ask (h : Faithful r₀ r) (hopen : r.stage ≠ .closed) {provider : String}
    {address : WebAddress} (haddress : r.request? provider = some address) :
    (r.ask address provider).1
        = (r₀.outcome provider).map (fun names => names.map fun names => names.head?.getD "") ∧
      Follows r₀ r (r.ask address provider).2 := by
  have hrequest : r₀.request? provider = some address := by
    rw [← request?_congr h.endpoint]
    exact haddress
  have hreply : r.registry provider (r.requests.count provider) = r₀.registry provider 0 := by
    rw [h.registry, h.fixed]
  have hfollows : ∀ failures : Nat,
      Follows r₀ r { r with requests := r.requests ++ [provider], failures := failures } :=
    fun failures => ⟨⟨h.fixed, h.registry, h.endpoint, h.kept⟩, rfl, fun hc => absurd hc hopen⟩
  unfold Resolver.ask outcome
  rw [hrequest, hreply]
  dsimp only
  unfold Reply.answer?
  split
  · cases (r₀.registry provider 0).names? with
    | error e => exact ⟨rfl, hfollows r.failures⟩
    | ok names =>
        cases names with
        | none => exact ⟨rfl, hfollows (r.failures + 1)⟩
        | some names => exact ⟨rfl, hfollows r.failures⟩
  · exact ⟨rfl, hfollows (r.failures + 1)⟩

/-! ### One lookup -/

/-- A lookup, as far as it got. -/
inductive Task where
  | waiting (provider : String)
  /-- The answer is not in the cache, so the registry will be asked. -/
  | asking (provider : String)
  /-- The registry gave an answer, which will be kept. -/
  | answered (provider answer : String)
  | done (provider : String) (result : Except LookupError String)

/-- A lookup looks into the cache. -/
def consult (r : Resolver) (provider : String) : Task × Resolver :=
  if Transport.isAgnostic provider then (.done provider (.ok ""), r)
  else
    match r.cached provider with
    | (some answer, r) => (.done provider (.ok answer), r)
    | (none, r) => (if r.stage = .closed then .done provider (.ok "") else .asking provider, r)

/-- A lookup asks the registry. -/
def inquire (r : Resolver) (provider : String) : Task × Resolver :=
  match r.request? provider with
  | none => (.done provider (.error .malformedAddress), r)
  | some address =>
    match r.ask address provider with
    | (.error e, r) => (.done provider (.error e), r)
    | (.ok none, r) => (.done provider (.ok ""), r)
    | (.ok (some answer), r) => (.answered provider answer, r)

/-- The next step of a lookup, in which nobody else touches the resolver. -/
def advance (r : Resolver) : Task → Task × Resolver
  | .waiting provider => r.consult provider
  | .asking provider => r.inquire provider
  | .answered provider answer => (.done provider (.ok answer), r.keep provider answer)
  | .done provider result => (.done provider result, r)

/-- What is true of a lookup that got so far. -/
def Task.Honest (r₀ : Resolver) (stage : ResolverStage) : Task → Prop
  | waiting _ => True
  | asking provider => stage ≠ .closed ∧ Transport.isAgnostic provider = false
  | answered provider answer =>
    stage ≠ .closed ∧ r₀.IsDefinitive provider ∧ answer = r₀.answer provider
  | done provider result => r₀.Allowed stage provider result

theorem Faithful.consult (h : Faithful r₀ r) (provider : String) :
    (r.consult provider).1.Honest r₀ r.stage ∧ Follows r₀ r (r.consult provider).2 := by
  unfold Resolver.consult
  cases hagnostic : Transport.isAgnostic provider with
  | true => exact ⟨allowed_agnostic hagnostic r.stage, Follows.refl h⟩
  | false =>
      obtain ⟨hhit, hfollows⟩ := h.cached provider
      rcases hcached : r.cached provider with ⟨kept, r'⟩
      rw [hcached] at hhit hfollows
      rw [if_neg (by simp)]
      cases kept with
      | some a =>
          obtain ⟨hdefinitive, rfl⟩ := hhit a rfl
          exact ⟨hdefinitive.allowed r.stage, hfollows⟩
      | none =>
          refine ⟨?_, hfollows⟩
          have hstage : r'.stage = r.stage := hfollows.stage
          dsimp only
          rw [hstage]
          by_cases hclosed : r.stage = .closed
          · rw [if_pos hclosed, hclosed]
            exact Or.inr rfl
          · rw [if_neg hclosed]
            exact ⟨hclosed, hagnostic⟩

/-- Without a cache a lookup comes to what its outcome says. -/
theorem allowed_outcome (r₀ : Resolver) {stage : ResolverStage} (hopen : stage ≠ .closed)
    {provider : String} (hsingle : Transport.isAgnostic provider = false) :
    r₀.Allowed stage provider
      ((r₀.outcome provider).map fun names => (names.map fun names => names.head?.getD "").getD "") := by
  unfold Allowed
  rw [if_neg hopen, expected_single hsingle]

theorem Faithful.inquire (h : Faithful r₀ r) {provider : String} (hopen : r.stage ≠ .closed)
    (hsingle : Transport.isAgnostic provider = false) :
    (r.inquire provider).1.Honest r₀ r.stage ∧ Follows r₀ r (r.inquire provider).2 := by
  have hallowed := allowed_outcome r₀ hopen hsingle
  unfold Resolver.inquire
  cases haddress : r.request? provider with
  | none =>
      have houtcome : r₀.outcome provider = .error .malformedAddress := by
        unfold outcome
        rw [← request?_congr h.endpoint, haddress]
      rw [houtcome] at hallowed
      exact ⟨hallowed, Follows.refl h⟩
  | some address =>
      obtain ⟨hresult, hfollows⟩ := h.ask hopen haddress
      dsimp only
      rcases hask : r.ask address provider with ⟨result, r'⟩
      rw [hask] at hresult hfollows
      cases houtcome : r₀.outcome provider with
      | error e =>
          rw [houtcome] at hresult hallowed
          obtain rfl : result = .error e := hresult
          exact ⟨hallowed, hfollows⟩
      | ok names =>
          rw [houtcome] at hresult hallowed
          cases names with
          | none =>
              obtain rfl : result = .ok none := hresult
              exact ⟨hallowed, hfollows⟩
          | some names =>
              obtain rfl : result = .ok (some (names.head?.getD "")) := hresult
              have hdefinitive : r₀.IsDefinitive provider := ⟨hsingle, names, houtcome⟩
              refine ⟨⟨hopen, hdefinitive, ?_⟩, hfollows⟩
              have hexpected := hdefinitive.expected
              unfold Allowed at hallowed
              rw [if_neg hopen, hexpected] at hallowed
              exact Except.ok.inj hallowed

/-- Each step keeps the lookup honest and the resolver faithful. -/
theorem Faithful.advance (h : Faithful r₀ r) {t : Task} (ht : t.Honest r₀ r.stage) :
    (r.advance t).1.Honest r₀ r.stage ∧ Follows r₀ r (r.advance t).2 := by
  cases t with
  | waiting provider => exact h.consult provider
  | asking provider => exact h.inquire ht.1 ht.2
  | answered provider answer =>
      obtain ⟨-, hdefinitive, rfl⟩ := ht
      exact ⟨hdefinitive.allowed r.stage, h.keep hdefinitive⟩
  | done provider result => exact ⟨ht, Follows.refl h⟩

/-- A lookup that is alone is over when it looked into the cache, or it goes on to ask. -/
theorem consult_cases (r : Resolver) (provider : String) :
    (∃ result r', r.consult provider = (.done provider result, r') ∧
      r.resolve provider = (result, r')) ∨
    ∃ r', r.consult provider = (.asking provider, r') ∧ r.resolve provider = r'.lookUp provider := by
  unfold consult resolve
  cases Transport.isAgnostic provider with
  | true => exact Or.inl ⟨_, _, rfl, rfl⟩
  | false =>
      rw [if_neg (by simp), if_neg (by simp)]
      rcases r.cached provider with ⟨kept, r'⟩
      cases kept with
      | some a => exact Or.inl ⟨_, _, rfl, rfl⟩
      | none =>
          dsimp only
          by_cases hclosed : r'.stage = .closed
          · rw [if_pos hclosed, if_pos hclosed]
            exact Or.inl ⟨_, _, rfl, rfl⟩
          · rw [if_neg hclosed, if_neg hclosed]
            exact Or.inr ⟨_, rfl, rfl⟩

/-- Having asked, it is over, or it keeps the answer. -/
theorem inquire_cases (r : Resolver) (provider : String) :
    (∃ result r', r.inquire provider = (.done provider result, r') ∧
      r.lookUp provider = (result, r')) ∨
    ∃ a r', r.inquire provider = (.answered provider a, r') ∧
      r.lookUp provider = (.ok a, r'.keep provider a) := by
  unfold inquire lookUp
  cases r.request? provider with
  | none => exact Or.inl ⟨_, _, rfl, rfl⟩
  | some address =>
      dsimp only
      rcases r.ask address provider with ⟨result, r'⟩
      cases result with
      | error e => exact Or.inl ⟨_, _, rfl, rfl⟩
      | ok found =>
          cases found with
          | none => exact Or.inl ⟨_, _, rfl, rfl⟩
          | some a => exact Or.inr ⟨_, _, rfl, rfl⟩

theorem Faithful.lookUp (h : Faithful r₀ r) {provider : String} (hopen : r.stage ≠ .closed)
    (hsingle : Transport.isAgnostic provider = false) :
    r₀.Allowed r.stage provider (r.lookUp provider).1 ∧ Follows r₀ r (r.lookUp provider).2 := by
  obtain ⟨hhonest, hfollows⟩ := h.inquire hopen hsingle
  rcases inquire_cases r provider with ⟨result, r', hstep, hlookUp⟩ | ⟨a, r', hstep, hlookUp⟩
  · rw [hstep] at hhonest hfollows
    rw [hlookUp]
    exact ⟨hhonest, hfollows⟩
  · rw [hstep] at hhonest hfollows
    obtain ⟨-, hdefinitive, rfl⟩ := hhonest
    rw [hlookUp]
    exact ⟨hdefinitive.allowed r.stage, hfollows.trans (hfollows.faithful.keep hdefinitive)⟩

/-- A lookup comes to what is allowed. -/
theorem Faithful.resolve (h : Faithful r₀ r) (provider : String) :
    r₀.Allowed r.stage provider (r.resolve provider).1 ∧
      Follows r₀ r (r.resolve provider).2 := by
  obtain ⟨hhonest, hfollows⟩ := h.consult provider
  rcases consult_cases r provider with ⟨result, r', hstep, hresolve⟩ | ⟨r', hstep, hresolve⟩
  · rw [hstep] at hhonest hfollows
    rw [hresolve]
    exact ⟨hhonest, hfollows⟩
  · rw [hstep] at hhonest hfollows
    obtain ⟨hopen, hsingle⟩ := hhonest
    have hstage : r'.stage = r.stage := hfollows.stage
    rw [← hstage] at hopen
    obtain ⟨hallowed, hrest⟩ := hfollows.faithful.lookUp hopen hsingle
    rw [hresolve, ← hstage]
    exact ⟨hallowed, hfollows.trans hrest⟩

/-! ### Several lookups at the same time -/

/-- The steps of several lookups, one after the other in any order. -/
inductive Worked : Resolver → List Task → Resolver → List Task → Prop
  | rest (r : Resolver) (tasks : List Task) : Worked r tasks r tasks
  | step {r r' : Resolver} {front back tasks' : List Task} {t : Task} :
    Worked (r.advance t).2 (front ++ (r.advance t).1 :: back) r' tasks' →
    Worked r (front ++ t :: back) r' tasks'

/-- Lookups that have just begun. -/
def begun (providers : List String) : List Task := providers.map Task.waiting

/-- Lookups that came to their end. -/
def ended (results : List (String × Except LookupError String)) : List Task :=
  results.map fun result => .done result.1 result.2

/-- The provider that a lookup is for. -/
def Task.provider : Task → String
  | waiting provider => provider
  | asking provider => provider
  | answered provider _ => provider
  | done provider _ => provider

theorem provider_advance (r : Resolver) (t : Task) : (r.advance t).1.provider = t.provider := by
  cases t with
  | waiting provider =>
      show (r.consult provider).1.provider = provider
      rcases consult_cases r provider with ⟨result, r', hstep, -⟩ | ⟨r', hstep, -⟩
      · rw [hstep]
        rfl
      · rw [hstep]
        rfl
  | asking provider =>
      show (r.inquire provider).1.provider = provider
      rcases inquire_cases r provider with ⟨result, r', hstep, -⟩ | ⟨a, r', hstep, -⟩
      · rw [hstep]
        rfl
      · rw [hstep]
        rfl
  | answered provider a => rfl
  | done provider result => rfl

theorem Worked.providers {r' : Resolver} {tasks tasks' : List Task} (h : Worked r tasks r' tasks') :
    tasks'.map Task.provider = tasks.map Task.provider := by
  induction h with
  | rest => rfl
  | step _ ih =>
      rw [ih, List.map_append, List.map_append, List.map_cons, List.map_cons, provider_advance]

/-- Lookups that came to their end are those that began. -/
theorem Worked.ended_providers {r' : Resolver} {providers : List String}
    {results : List (String × Except LookupError String)}
    (hworked : Worked r (begun providers) r' (ended results)) : results.map (·.1) = providers := by
  have hproviders := hworked.providers
  unfold begun ended at hproviders
  rw [List.map_map, List.map_map] at hproviders
  exact hproviders.trans (List.map_id _)

/-- In any order of the steps all lookups stay honest. -/
theorem Worked.honest {r' : Resolver} {tasks tasks' : List Task} (hworked : Worked r tasks r' tasks')
    (h : Faithful r₀ r) (htasks : ∀ t ∈ tasks, t.Honest r₀ r.stage) :
    (∀ t ∈ tasks', t.Honest r₀ r.stage) ∧ Follows r₀ r r' := by
  induction hworked with
  | rest => exact ⟨htasks, Follows.refl h⟩
  | @step r r' front back tasks' t _ ih =>
      obtain ⟨ht, hfollows⟩ := h.advance (htasks t (by simp))
      have hothers : ∀ u ∈ front ++ (r.advance t).1 :: back, u.Honest r₀ (r.advance t).2.stage := by
        intro u hu
        rw [hfollows.stage]
        rcases List.mem_append.mp hu with hfront | hback
        · exact htasks u (List.mem_append_left _ hfront)
        · rcases List.mem_cons.mp hback with rfl | hback
          · exact ht
          · exact htasks u (List.mem_append_right _ (List.mem_cons_of_mem _ hback))
      obtain ⟨hhonest, hrest⟩ := ih hfollows.faithful hothers
      rw [hfollows.stage] at hhonest
      exact ⟨hhonest, hfollows.trans hrest⟩

/-- Lookups that came to their end, whoever made which step when, came to what is allowed, one for each
provider. -/
theorem Worked.results {r' : Resolver} {providers : List String}
    {results : List (String × Except LookupError String)}
    (hworked : Worked r (begun providers) r' (ended results)) (h : Faithful r₀ r) :
    results.map (·.1) = providers ∧
      (∀ result ∈ results, r₀.Allowed r.stage result.1 result.2) ∧ Follows r₀ r r' := by
  have hbegun : ∀ t ∈ begun providers, t.Honest r₀ r.stage := by
    intro t ht
    obtain ⟨provider, -, rfl⟩ := List.mem_map.mp ht
    exact trivial
  obtain ⟨hhonest, hfollows⟩ := hworked.honest h hbegun
  exact ⟨hworked.ended_providers, fun result hresult => hhonest _ (List.mem_map_of_mem hresult),
    hfollows⟩

theorem Worked.trans {r' r'' : Resolver} {tasks tasks' tasks'' : List Task}
    (h : Worked r tasks r' tasks') (h' : Worked r' tasks' r'' tasks'') : Worked r tasks r'' tasks'' := by
  induction h with
  | rest => exact h'
  | step _ ih => exact .step (ih h')

/-- A lookup that got somewhere can be brought to its end, whatever the others are doing. -/
theorem exists_done (r : Resolver) (front back : List Task) (t : Task) :
    ∃ r' provider result, ∀ {r'' : Resolver} {tasks : List Task},
      Worked r' (front ++ .done provider result :: back) r'' tasks →
      Worked r (front ++ t :: back) r'' tasks := by
  have hasked : ∀ (r : Resolver) (provider : String), ∃ r' result,
      ∀ {r'' : Resolver} {tasks : List Task},
        Worked r' (front ++ .done provider result :: back) r'' tasks →
        Worked r (front ++ .asking provider :: back) r'' tasks := by
    intro r provider
    rcases inquire_cases r provider with ⟨result, r', hstep, -⟩ | ⟨a, r', hstep, -⟩
    · refine ⟨r', result, fun hrest => .step ?_⟩
      rw [advance, hstep]
      exact hrest
    · refine ⟨r'.keep provider a, .ok a, fun hrest => .step ?_⟩
      rw [advance, hstep]
      exact .step hrest
  cases t with
  | waiting provider =>
      rcases consult_cases r provider with ⟨result, r', hstep, -⟩ | ⟨r', hstep, -⟩
      · refine ⟨r', provider, result, fun hrest => .step ?_⟩
        rw [advance, hstep]
        exact hrest
      · obtain ⟨r'', result, hrest⟩ := hasked r' provider
        refine ⟨r'', provider, result, fun h => .step ?_⟩
        rw [advance, hstep]
        exact hrest h
  | asking provider =>
      obtain ⟨r', result, hrest⟩ := hasked r provider
      exact ⟨r', provider, result, hrest⟩
  | answered provider a => exact ⟨r.keep provider a, provider, .ok a, fun hrest => .step hrest⟩
  | done provider result => exact ⟨r, provider, result, id⟩

/-- However far several lookups got, they can come to their end. -/
theorem exists_ended (tasks : List Task) : ∀ (r : Resolver)
    (done : List (String × Except LookupError String)),
      ∃ r' results, Worked r (ended done ++ tasks) r' (ended results) := by
  induction tasks with
  | nil =>
      intro r done
      refine ⟨r, done, ?_⟩
      rw [List.append_nil]
      exact .rest r (ended done)
  | cons t rest ih =>
      intro r done
      obtain ⟨r', provider, result, hdone⟩ := exists_done r (ended done) rest t
      obtain ⟨r'', results, hrest⟩ := ih r' (done ++ [(provider, result)])
      refine ⟨r'', results, hdone ?_⟩
      unfold ended at hrest ⊢
      rw [List.map_append, List.append_assoc] at hrest
      exact hrest

end Resolver

end RetrievalTelemetry
