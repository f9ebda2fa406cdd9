/-
The registry gives names and does nothing else.

The updates of a record are compared for two mappings from providers to names.  Item by item they are
the same, but for the tags of a provider, which hold its name; `Twin` says so, and of which providers
there can be tags.  They are the providers that were asked for and, if a success names none, the empty
one, which is no provider and has no name.

The second half is about where the mapping comes from.  The names of several providers are those that
each of them would be given alone, so every update that has a provider has the right name with it.
-/
import Mathlib.Data.List.Forall2
import RetrievalTelemetry.Correlator
import RetrievalTelemetry.Proofs.Metering.Account
import RetrievalTelemetry.Proofs.Provider.Alone

namespace RetrievalTelemetry

namespace Update

open Metering (Names providerTags)

/-- A call without the name that the registry has for its provider. -/
def unnamed : Update → Update
  | add c delta attributes => add c delta (attributes.filter fun a => a.1 ≠ "fil_sp_id")
  | record h value attributes => record h value (attributes.filter fun a => a.1 ≠ "fil_sp_id")

/-- A call that has a provider has its name with it, unless that is empty. -/
def IsNamed (name : String → String) (u : Update) : Prop :=
  ∀ provider, ("sp_id", provider) ∈ u.attributes →
    u.attributes = ("sp_id", provider) ::
      if name provider = "" then [] else [("fil_sp_id", name provider)]

/-- A call that has no provider. -/
def IsAnonymous (u : Update) : Prop := ∀ a ∈ u.attributes, a.1 ≠ "sp_id" ∧ a.1 ≠ "fil_sp_id"

/-- Two calls that differ in the name of a provider at most, and that provider is one of some. -/
inductive Twin (names names' : Names) (providers : List String) : Update → Update → Prop
  | same {u : Update} : u.IsAnonymous → Twin names names' providers u u
  | tagged {c : Counter} {provider : String} : provider ∈ providers →
    Twin names names' providers (.count c (providerTags names provider))
      (.count c (providerTags names' provider))

theorem providerTags_eq (names : Names) (provider : String) :
    providerTags names provider = ("sp_id", provider) ::
      let name := (names.lookup provider).getD ""
      if name = "" then [] else [("fil_sp_id", name)] := by
  unfold providerTags
  cases names.lookup provider with
  | none => rfl
  | some name => by_cases hname : name = "" <;> simp [hname]

theorem isAnonymous_protocol {u : Update} {label : String} (h : u.attributes = protocol label) :
    u.IsAnonymous := by
  unfold IsAnonymous
  rw [h]
  simp [protocol]

theorem isAnonymous_bare {u : Update} (h : u.attributes = []) : u.IsAnonymous := by
  unfold IsAnonymous
  rw [h]
  simp

variable {names names' : Names} {providers : List String} {u u' : Update}

theorem Twin.unnamed_eq (h : Twin names names' providers u u') : u.unnamed = u'.unnamed := by
  have htags : ∀ (names : Names) provider,
      (providerTags names provider).filter (fun a => a.1 ≠ "fil_sp_id") = [("sp_id", provider)] := by
    intro names provider
    rw [providerTags_eq]
    dsimp only
    split <;> simp
  cases h with
  | same => rfl
  | tagged _ => simp only [unnamed, count, htags]

/-- The provider of a call is one of those that were looked for, and it has the tags of that one. -/
theorem Twin.provider_mem (h : Twin names names' providers u u') {provider : String}
    (hprovider : ("sp_id", provider) ∈ u.attributes) :
    provider ∈ providers ∧ u.attributes = providerTags names provider := by
  cases h with
  | same hother => exact absurd rfl (hother _ hprovider).1
  | @tagged c provider' hmem =>
      have hprovider : ("sp_id", provider) ∈ providerTags names provider' := hprovider
      have heq : provider = provider' := by
        rw [providerTags_eq] at hprovider
        dsimp only at hprovider
        split at hprovider <;> simpa using hprovider
      rw [heq]
      exact ⟨hmem, rfl⟩

end Update

/-! ### The parts of a record -/

namespace Metering

open Update (Twin isAnonymous_bare isAnonymous_protocol)

variable {names names' : Names} {providers : List String}

/-- Calls without a provider are the same for all mappings. -/
theorem twins_same {updates : List Update} (h : ∀ u ∈ updates, u.IsAnonymous) :
    List.Forall₂ (Twin names names' providers) updates updates :=
  List.forall₂_same.mpr fun u hu => .same (h u hu)

theorem twins_attemptUpdates {provider : String} (hmem : provider ∈ providers) (label : String) :
    List.Forall₂ (Twin names names' providers)
      (attemptUpdates (providerTags names provider) label)
      (attemptUpdates (providerTags names' provider) label) := by
  unfold attemptUpdates
  split
  · exact .cons (.same (isAnonymous_bare rfl)) .nil
  · exact .cons (.tagged hmem) .nil
  · exact .cons (.tagged hmem) .nil
  · exact .nil

theorem twins_attemptFailureUpdates {provider : String} (hmem : provider ∈ providers)
    (label error : String) :
    List.Forall₂ (Twin names names' providers)
      (attemptFailureUpdates (providerTags names provider) label error)
      (attemptFailureUpdates (providerTags names' provider) label error) := by
  refine List.rel_append ?_ (.cons (.same (isAnonymous_protocol rfl)) .nil)
  split
  · exact .cons (.tagged hmem) .nil
  · exact .cons (.tagged hmem) .nil
  · exact .nil

theorem twins_successCounter {provider : String} (hmem : provider ∈ providers) (label : String) :
    List.Forall₂ (Twin names names' providers)
      (successCounter (providerTags names provider) label)
      (successCounter (providerTags names' provider) label) := by
  unfold successCounter
  split
  · exact .cons (.same (isAnonymous_bare rfl)) .nil
  · exact .cons (.tagged hmem) .nil
  · exact .cons (.tagged hmem) .nil
  · exact .nil

theorem twins_attempts {attempts : List (String × Attempt)}
    (hmem : ∀ a ∈ attempts, a.1 ∈ providers) (seen : List String) :
    List.Forall₂ (Twin names names' providers) (attemptsUpdates names seen attempts)
      (attemptsUpdates names' seen attempts) := by
  induction attempts generalizing seen with
  | nil => exact .nil
  | cons a rest ih =>
      obtain ⟨provider, attempt⟩ := a
      obtain ⟨hprovider, hrest⟩ := List.forall_mem_cons.mp hmem
      unfold attemptsUpdates
      refine List.rel_append (List.rel_append ?_ ?_) (ih hrest _)
      · split
        · exact .nil
        · exact twins_attemptUpdates hprovider _
      · split
        · exact .nil
        · exact twins_attemptFailureUpdates hprovider _ _

theorem twins_success {r : Record} (hmem : r.provider ∈ providers) :
    List.Forall₂ (Twin names names' providers) (recordSuccessUpdates names r)
      (recordSuccessUpdates names' r) := by
  refine List.rel_append (List.rel_append (.cons ?_ (twins_successCounter hmem _)) ?_) ?_
  · exact .same (isAnonymous_protocol rfl)
  · refine twins_same fun u hu => ?_
    simp only [List.mem_cons, List.not_mem_nil, or_false] at hu
    rcases hu with rfl | rfl | rfl <;> exact isAnonymous_protocol rfl
  · refine twins_same fun u hu => ?_
    simp only [perRequest, List.mem_cons, List.not_mem_nil, or_false] at hu
    rcases hu with rfl | rfl | rfl <;> exact isAnonymous_bare rfl

/-- What a record tells of the indexer and of the first byte has no provider. -/
theorem isAnonymous_between (r : Record) : ∀ u ∈ between r, u.IsAnonymous := by
  have hone : ∀ {p : Prop} [Decidable p] {u : Update}, u.IsAnonymous →
      ∀ v ∈ (if p then [u] else []), v.IsAnonymous := by
    intro p _ u hu v hv
    split at hv
    · rw [List.mem_singleton.mp hv]
      exact hu
    · cases hv
  unfold between indexerUpdates recordFirstByteUpdates
  simp only [List.forall_mem_append]
  refine ⟨⟨⟨hone ?_, hone ?_⟩, hone ?_⟩, fun u hu => ?_⟩
  · exact isAnonymous_bare rfl
  · exact isAnonymous_bare rfl
  · exact isAnonymous_bare rfl
  · split at hu
    · simp only [List.mem_cons, List.not_mem_nil, or_false] at hu
      rcases hu with rfl | rfl <;> exact isAnonymous_protocol rfl
    · cases hu

/-- The calls of a record for two mappings. -/
theorem twins_record (names names' : Names) (r : Record) :
    List.Forall₂ (Twin names names' ("" :: providersOf r)) (record names r) (record names' r) := by
  have hattempts : ∀ a ∈ r.attempts, a.1 ∈ "" :: providersOf r := fun a ha =>
    List.mem_cons_of_mem _ (List.mem_append_left _ (List.mem_map_of_mem ha))
  rw [record_eq, record_eq]
  refine .cons (.same (isAnonymous_bare rfl)) (List.rel_append (twins_attempts hattempts [])
    (List.rel_append (twins_same (isAnonymous_between r)) ?_))
  unfold endingUpdates
  split
  · rename_i hsuccess
    refine twins_success ?_
    unfold providersOf
    by_cases hempty : r.provider = "" <;> simp [hsuccess, hempty]
  · split
    · exact .cons (.same (isAnonymous_bare rfl)) .nil
    · exact .nil

end Metering

/-! ### The names that are looked up -/

namespace Resolver

open Metering (providersOf)

/-- What a mapping has for a provider that it was made for. -/
theorem Named.lookup {allowed : String → Except LookupError String → Prop} {providers : List String}
    {names : List (String × String)} (h : Named allowed providers names) {provider : String}
    (hmem : provider ∈ providers) :
    ∃ name, names.lookup provider = some name ∧ allowed provider (.ok name) := by
  cases hlookup : names.lookup provider with
  | none => exact absurd ((h.mem provider).mpr hmem) (lookup_eq_none_iff.mp hlookup)
  | some name =>
      obtain ⟨front, back, hnames, -⟩ := List.lookup_eq_some_iff.mp hlookup
      exact ⟨name, rfl, h.allowed (provider, name) (by simp [hnames])⟩

/-- The mapping of a call gives every provider of the call the name of a single lookup, and the empty
provider none. -/
theorem Serves.lookup {r r' : Resolver} {providers : List String} {name : String → String}
    {result : Except LookupError (List (String × String))}
    (hserves : Serves r (.resolveMany providers result) r') (hwithin : Within r)
    (hname : ∀ provider ∈ "" :: providers, (r.resolve provider).1 = .ok (name provider)) :
    ∃ names, result = .ok names ∧
      ∀ provider ∈ "" :: providers, (names.lookup provider).getD "" = name provider := by
  have hgives := hserves.alone hwithin
  cases result with
  | error e =>
      obtain ⟨provider, hmem, hstopped⟩ := hgives
      rw [hname provider (List.mem_cons_of_mem _ hmem)] at hstopped
      cases hstopped
  | ok names =>
      refine ⟨names, rfl, fun provider hmem => ?_⟩
      have hown := hname provider hmem
      by_cases hasked : provider ∈ providers
      · obtain ⟨found, hlookup, hfound⟩ := Named.lookup hgives hasked
        rw [hlookup]
        exact Except.ok.inj (hfound.trans hown)
      · obtain rfl : provider = "" := (List.mem_cons.mp hmem).resolve_right hasked
        have hnone : names.lookup "" = none :=
          lookup_eq_none_iff.mpr fun hkey => hasked ((hgives.mem "").mp hkey)
        rw [hnone]
        exact Except.ok.inj hown

end Resolver

namespace Correlator

open Metering (Names providersOf)
open Resolver (Exchange Runs Serves)
open Update (Twin)

theorem updates_tell (c : Correlator) (updates : List Update) : (c.tell updates).updates = updates := by
  unfold tell
  cases c.meter <;> rfl

/-- What a record tells is the updates for a mapping, unless looking for the names was stopped. -/
theorem updates_record {c : Correlator} {r : Record} {asked : Resolver} {names : Names}
    (hresolver : c.resolver = some asked)
    (hnames : (asked.resolveMany (providersOf r)).1 = .ok names) :
    (c.record r).updates = Metering.record names r := by
  unfold record Correlator.names
  rw [hresolver]
  dsimp only
  rw [hnames]
  exact updates_tell _ _

/-- The names of providers change nothing but the tag that holds the name, and every provider that is
tagged was looked for, unless it is the empty one.  If the mapping is what looking for the providers of
the record gave, then each of them has the name that a single lookup would have given it. -/
theorem record_named (r : Record) :
    (∀ (c : Correlator) (names names' : Names),
      (c.recordWith names r).updates.map Update.unnamed
          = (c.recordWith names' r).updates.map Update.unnamed ∧
        ∀ u ∈ (c.recordWith names r).updates, ∀ provider, ("sp_id", provider) ∈ u.attributes →
          provider ∈ "" :: providersOf r) ∧
      ∀ {registry : Registry} {endpoint : String} {capacity workers : Int} {r₀ asked : Resolver}
        {calls : List Exchange} {name : String → String},
        Resolver.ofRegistry registry endpoint capacity workers = .ok r₀ → Runs r₀ calls asked →
        (∀ provider ∈ "" :: providersOf r, (asked.resolve provider).1 = .ok (name provider)) →
        (∀ {result asked'}, Serves asked (.resolveMany (providersOf r) result) asked' →
          ∃ names, result = .ok names ∧
            ∀ c : Correlator, ∀ u ∈ (c.recordWith names r).updates, u.IsNamed name) ∧
        ∀ c : Correlator, c.resolver = some asked →
          ∃ names, (c.record r).updates = Metering.record names r ∧
            ∀ u ∈ (c.record r).updates, u.IsNamed name := by
  have htold : ∀ (c : Correlator) names, (c.recordWith names r).updates = Metering.record names r :=
    fun c names => c.updates_tell _
  have hself : ∀ names, ∀ u ∈ Metering.record names r,
      Twin names names ("" :: providersOf r) u u := fun names =>
    List.forall₂_same.mp (Metering.twins_record names names r)
  refine ⟨fun c names names' => ⟨?_, fun u hu provider hprovider => ?_⟩, ?_⟩
  · rw [htold, htold, ← List.forall₂_eq_eq_eq, List.forall₂_map_left_iff,
      List.forall₂_map_right_iff]
    exact (Metering.twins_record names names' r).imp fun u u' htwin => htwin.unnamed_eq
  · rw [htold] at hu
    exact ((hself names u hu).provider_mem hprovider).1
  · intro registry endpoint capacity workers r₀ asked calls name hfresh hrun hname
    have hnamed : ∀ {result asked'}, Serves asked (.resolveMany (providersOf r) result) asked' →
        ∃ names, result = .ok names ∧ ∀ u ∈ Metering.record names r, u.IsNamed name := by
      intro result asked' hserves
      obtain ⟨names, hresult, hlookups⟩ := hserves.lookup (hrun.within hfresh) hname
      refine ⟨names, hresult, fun u hu provider hprovider => ?_⟩
      obtain ⟨hmem, htags⟩ := (hself names u hu).provider_mem hprovider
      rw [htags, Update.providerTags_eq, hlookups provider hmem]
    refine ⟨fun hserves => ?_, fun c hresolver => ?_⟩
    · obtain ⟨names, hresult, hcalls⟩ := hnamed hserves
      exact ⟨names, hresult, fun c => htold c names ▸ hcalls⟩
    · obtain ⟨names, hresult, hcalls⟩ := hnamed (.inTurn asked (providersOf r))
      have hrecord := updates_record hresolver hresult
      exact ⟨names, hrecord, hrecord ▸ hcalls⟩

/-- A provider that failed has no name, and the one that delivered, which is not among the attempts,
has one. -/
theorem record_named_delivered :
    let reply := fun provider =>
      if provider = "p" then Reply.response 200 "[\"f01\"]".toUTF8 else .unreachable
    let r : Record :=
      { instanceId := "", retrieval := ⟨1⟩, start := ⟨0, 0⟩, finish := ⟨0, 0⟩, success := true,
        provider := "p", transport := Transport.graphsync.multicodec,
        attempts := [("q", { error := "timeout", transport := Transport.graphsync.multicodec })] }
    ∃ r₀ names, Resolver.ofRegistry (fun provider _ => reply provider) "https://registry.test" 1 2
        = .ok r₀ ∧
      (r₀.resolveMany (providersOf r)).1 = .ok names ∧
      ∀ c : Correlator,
        .count .graphsyncFailures [("sp_id", "q")] ∈ (c.recordWith names r).updates ∧
        .count .graphsyncSuccess [("sp_id", "p"), ("fil_sp_id", "f01")]
          ∈ (c.recordWith names r).updates := by
  intro reply r
  obtain ⟨r₀, hfresh, hregistry, hendpoint⟩ :=
    Resolver.exists_ofRegistry (fun provider _ => reply provider) "https://registry.test"
      (show (0 : Int) < 1 by decide) (show (0 : Int) < 2 by decide)
  obtain ⟨hfaithful, hstage⟩ := Resolver.faithful_of_ofRegistry reply hfresh
  have hresolve : ∀ provider, (r₀.resolve provider).1 = r₀.expected provider := by
    intro provider
    have hallowed := (hfaithful.resolve provider).1
    unfold Resolver.Allowed at hallowed
    rwa [if_neg (by rw [hstage]; nofun)] at hallowed
  have hp : r₀.expected "p" = .ok "f01" := by
    obtain ⟨address, haddress, hcomplete⟩ :=
      Resolver.exists_request (p := "p") hendpoint (by decide +kernel)
    have hreply : r₀.registry "p" 0 = .response 200 "[\"f01\"]".toUTF8 := by
      rw [hregistry]
      exact if_pos rfl
    rw [Resolver.expected_single (by decide), Resolver.outcome_of_complete haddress hcomplete,
      hreply, Reply.names?_one]
    rfl
  have hq : r₀.expected "q" = .ok "" := by
    obtain ⟨address, haddress, hcomplete⟩ :=
      Resolver.exists_request (p := "q") hendpoint (by decide +kernel)
    have hreply : r₀.registry "q" 0 = .unreachable := by
      rw [hregistry]
      exact if_neg (by decide)
    rw [Resolver.expected_single (by decide), Resolver.outcome_of_complete haddress hcomplete,
      hreply]
    rfl
  let name : String → String := fun provider => if provider = "p" then "f01" else ""
  have hname : ∀ provider ∈ "" :: providersOf r,
      (r₀.resolve provider).1 = .ok (name provider) := by
    intro provider hmem
    have hmem : provider ∈ ["", "q", "p"] := hmem
    simp only [List.mem_cons, List.not_mem_nil, or_false] at hmem
    rcases hmem with rfl | rfl | rfl
    · exact (hresolve "").trans (Resolver.expected_agnostic rfl).1
    · exact (hresolve "q").trans hq
    · exact (hresolve "p").trans hp
  obtain ⟨hmany, -⟩ := (record_named r).2 hfresh .start hname
  obtain ⟨names, hresult, hnamed⟩ := hmany (.inTurn r₀ (providersOf r))
  refine ⟨r₀, names, hfresh, hresult, fun c => ?_⟩
  have hlabel : Transport.label Transport.graphsync.multicodec = "graphsync" := by decide
  have hfamily : Transport.ofLabel? "graphsync" = some .graphsync := by decide
  have htold : (c.recordWith names r).updates = Metering.record names r := c.updates_tell _
  have hfailure : .count .graphsyncFailures (Metering.providerTags names "q")
      ∈ (c.recordWith names r).updates := by
    rw [htold]
    simp [r, Metering.record, Metering.attemptsUpdates, Metering.attemptFailureUpdates, hlabel,
      hfamily]
  have hsuccess : .count .graphsyncSuccess (Metering.providerTags names "p")
      ∈ (c.recordWith names r).updates := by
    rw [htold]
    simp [r, Metering.record, Metering.endingUpdates, Metering.recordSuccessUpdates,
      Metering.successCounter, hlabel, hfamily]
  have htags : ∀ {counter : Counter} {provider : String},
      .count counter (Metering.providerTags names provider) ∈ (c.recordWith names r).updates →
      Metering.providerTags names provider = ("sp_id", provider) ::
        if name provider = "" then [] else [("fil_sp_id", name provider)] :=
    fun hmem => hnamed c _ hmem _ (by simp [Update.providerTags_eq, Update.count, Update.attributes])
  have hnameless : Metering.providerTags names "q" = [("sp_id", "q")] := htags hfailure
  have hnamesake : Metering.providerTags names "p" = [("sp_id", "p"), ("fil_sp_id", "f01")] :=
    htags hsuccess
  rw [hnameless] at hfailure
  rw [hnamesake] at hsuccess
  exact ⟨hfailure, hsuccess⟩

end Correlator

end RetrievalTelemetry
