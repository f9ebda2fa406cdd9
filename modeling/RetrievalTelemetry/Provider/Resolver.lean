/-
Looking up the names of providers.

Answers are kept, the most recently used ones up to a limit; a failed lookup is not kept, so
the next one asks again.  Providers that stand for no single one have no name and are never
looked up.  After the resolver is closed it knows what it knew, but sends nothing any more.

The address of the registry is read when a request is to be sent.  A malformed one stops the
lookup, and so does a provider whose name makes it too long; with one that names no host, a request
is sent but counts as failed.
-/
import RetrievalTelemetry.Provider.Registry
import RetrievalTelemetry.Provider.Transport
import RetrievalTelemetry.Text.FormEncoded
import RetrievalTelemetry.Text.Search
import RetrievalTelemetry.WebAddress.Basic

namespace RetrievalTelemetry

/-- Whether a resolver can send requests. -/
inductive ResolverStage where
  | running
  /-- Single lookups only: there are no workers any more. -/
  | withoutWorkers
  | closed
deriving DecidableEq, Repr

/-- Names of providers, with a memory. -/
structure Resolver where
  registry : Registry
  endpoint : String
  /-- The number of answers that are kept. -/
  capacity : Nat
  /-- The number of lookups that may go on at the same time. -/
  workers : Nat
  /-- The answers by provider, the one that was not used for the longest time first. -/
  cache : List (String × String) := []
  /-- The providers that were asked about, in order. -/
  requests : List String := []
  /-- The number of requests without an answer. -/
  failures : Nat := 0
  stage : ResolverStage := .running

/-- Why there can be no such resolver. -/
inductive ResolverError where
  | capacity (given : Int)
  | workers (given : Int)
deriving DecidableEq, Repr

def ResolverError.message : ResolverError → String
  | capacity given => "cache_size must be positive, got " ++ toString given
  | workers given => "max_workers must be positive, got " ++ toString given

/-- Why a lookup does not come to its end. -/
inductive LookupError where
  /-- The address of the request is malformed. -/
  | malformedAddress
  /-- The reply is nested too deep. -/
  | deepReply
deriving DecidableEq, Repr

namespace Resolver

/-- A resolver that asks `registry`; slashes at the end of the address do not count. -/
def ofRegistry (registry : Registry) (endpoint : String) (capacity workers : Int) :
    Except ResolverError Resolver :=
  if capacity ≤ 0 then .error (.capacity capacity)
  else if workers ≤ 0 then .error (.workers workers)
  else
    .ok
      { registry := registry
        endpoint := Text.dropTrailing '/' endpoint
        capacity := capacity.toNat
        workers := workers.toNat }

/-- Where requests go; none if the address is malformed. -/
def destination? (r : Resolver) : Option WebAddress :=
  (WebAddress.ofText? (r.endpoint ++ "/sp")).bind fun a =>
    if a.isComplete then some a else if a.pathOnly.fits then some a.pathOnly else none

/-- The address that is asked about a provider; none if it is malformed. -/
def request? (r : Resolver) (provider : String) : Option WebAddress :=
  r.destination?.bind fun a => a.withQuery? ("peerid=" ++ Text.formEncoded provider)

/-- The text of the address that is asked about a provider. -/
def address? (r : Resolver) (provider : String) : Option String :=
  (r.request? provider).map WebAddress.render

/-- Puts an answer behind all others, and forgets those in front that are too many. -/
def keep (r : Resolver) (provider answer : String) : Resolver :=
  let cache := r.cache.filter (fun entry => entry.1 ≠ provider) ++ [(provider, answer)]
  { r with cache := cache.drop (cache.length - r.capacity) }

/-- The answer that is kept for a provider, which is then the last one used. -/
def cached (r : Resolver) (provider : String) : Option String × Resolver :=
  match r.cache.lookup provider with
  | none => (none, r)
  | some answer => (some answer, r.keep provider answer)

/-- Asks the registry at an address; an answer is none if the reply gives no names. -/
def ask (r : Resolver) (address : WebAddress) (provider : String) :
    Except LookupError (Option String) × Resolver :=
  let reply := r.registry provider (r.requests.count provider)
  let r := { r with requests := r.requests ++ [provider] }
  let failed := { r with failures := r.failures + 1 }
  if address.isComplete then
    match reply.answer? with
    | .error _ => (.error .deepReply, r)
    | .ok (some answer) => (.ok (some answer), r)
    | .ok none => (.ok none, failed)
  else (.ok none, failed)

/-- Asks the registry and keeps its answer. -/
def lookUp (r : Resolver) (provider : String) : Except LookupError String × Resolver :=
  match r.request? provider with
  | none => (.error .malformedAddress, r)
  | some address =>
    match r.ask address provider with
    | (.error e, r) => (.error e, r)
    | (.ok none, r) => (.ok "", r)
    | (.ok (some answer), r) => (.ok answer, r.keep provider answer)

/-- The name of a provider, empty if none can be found. -/
def resolve (r : Resolver) (provider : String) : Except LookupError String × Resolver :=
  if Transport.isAgnostic provider then (.ok "", r)
  else
    match r.cached provider with
    | (some answer, r) => (.ok answer, r)
    | (none, r) => if r.stage = .closed then (.ok "", r) else r.lookUp provider

/-- The names of several providers, looked up one after the other.  What stops a lookup does not stop
those behind it, but what stopped the first such one comes instead of the names. -/
def resolveEach (r : Resolver) : List String → Except LookupError (List (String × String)) × Resolver
  | [] => (.ok [], r)
  | provider :: rest =>
    let (name, r) := r.resolve provider
    let (names, r) := r.resolveEach rest
    (name.bind fun name => names.map ((provider, name) :: ·), r)

/-- The names among several providers that need no lookup, and the providers that are left. -/
def remember (r : Resolver) : List String → (List (String × String) × List String) × Resolver
  | [] => (([], []), r)
  | provider :: rest =>
    let (known, r) := if Transport.isAgnostic provider then (some "", r) else r.cached provider
    let ((names, pending), r) := r.remember rest
    match known with
    | some name => (((provider, name) :: names, pending), r)
    | none => ((names, provider :: pending), r)

/-- The names of several providers, each provider once.  Two or more lookups need workers; without
them the names stay empty. -/
def resolveMany (r : Resolver) (providers : List String) :
    Except LookupError (List (String × String)) × Resolver :=
  let ((names, pending), r) := r.remember providers.eraseDups
  if r.stage = .withoutWorkers ∧ 2 ≤ pending.length then
    (.ok (names ++ pending.map (·, "")), r)
  else
    let (found, r) := r.resolveEach pending
    (found.map (names ++ ·), r)

/-- Lets the workers go. -/
def dismissWorkers (r : Resolver) : Resolver :=
  if r.stage = .running then { r with stage := .withoutWorkers } else r

/-- Ends all lookups. -/
def close (r : Resolver) : Resolver := { r with stage := .closed }

end Resolver

end RetrievalTelemetry
