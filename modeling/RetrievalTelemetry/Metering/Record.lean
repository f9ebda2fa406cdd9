/-
From records to updates.

A record is a whole retrieval, so nothing has to be remembered between records.  For each
transport the first attempt counts, each failed attempt counts, and the first byte belongs
to the attempt that was fastest.  Providers are named as the client names them, and also as
the registry does if it knows them.
-/
import RetrievalTelemetry.Event.Record
import RetrievalTelemetry.Metering.Event

namespace RetrievalTelemetry.Metering

/-- The names that the registry has for providers. -/
abbrev Names := List (String × String)

def providerTags (names : Names) (provider : String) : Attributes :=
  match names.lookup provider with
  | none => [("sp_id", provider)]
  | some name => if name = "" then [("sp_id", provider)] else [("sp_id", provider), ("fil_sp_id", name)]

/-- The providers of a record whose names are asked for. -/
def providersOf (r : Record) : List String :=
  r.attempts.map (·.1) ++ (if r.success && r.provider ≠ "" then [r.provider] else [])

/-- The first attempt over a transport. -/
def attemptUpdates (tags : Attributes) (label : String) : List Update :=
  match Transport.ofLabel? label with
  | some .bitswap => [.count .bitswapAttempts]
  | some .graphsync => [.count .graphsyncAttempts tags]
  | some .http => [.count .httpAttempts tags]
  | none => []

def attemptFailureUpdates (tags : Attributes) (label error : String) : List Update :=
  (match Transport.ofLabel? label with
   | some .graphsync => [.count .graphsyncFailures tags]
   | some .http => [.count .httpFailures tags]
   | _ => []) ++
  [.count (.error (ErrorCategory.ofMessage error)) (Update.protocol label)]

/-- What the attempts of a record tell the instruments; `seen` holds the transports tried before. -/
def attemptsUpdates (names : Names) (seen : List String) : List (String × Attempt) → List Update
  | [] => []
  | (provider, attempt) :: rest =>
    let label := Transport.label attempt.transport
    let tags := providerTags names provider
    (if seen.contains label then [] else attemptUpdates tags label) ++
      (if attempt.error = "" then [] else attemptFailureUpdates tags label attempt.error) ++
      attemptsUpdates names (label :: seen) rest

/-- The number of failed attempts. -/
def failureCount (r : Record) : Nat := r.attempts.countP fun a => a.2.error ≠ ""

/-- The fastest of two attempts, by time to first byte; an attempt without a positive time is not in
the running, and the earlier of two equally fast ones stays. -/
def faster (best : Option Attempt) (attempt : Attempt) : Option Attempt :=
  if attempt.firstByte.isPositive then
    match best with
    | none => some attempt
    | some b => if attempt.firstByte.micros < b.firstByte.micros then some attempt else some b
  else best

/-- The attempt from which the first byte came. -/
def fastest (r : Record) : Option Attempt := (r.attempts.map (·.2)).foldl faster none

/-- The transport that the first byte is put down to: that of the fastest attempt, or the one that
delivered if there is none or it has no name. -/
def firstByteLabel (r : Record) : String :=
  let delivered := Transport.label r.transport
  match fastest r with
  | none => delivered
  | some attempt =>
    let label := Transport.label attempt.transport
    if label = "" then delivered else label

/-- What the indexer's part of a record tells the instruments. -/
def indexerUpdates (r : Record) : List Update :=
  (if r.firstCandidate.isPositive then [.seconds .timeToFirstCandidate r.firstCandidate.toSeconds]
   else []) ++
  (if 0 < r.candidates then [.count .candidates] else []) ++
  (if 0 < r.filtered then [.count .candidatesFiltered] else [])

/-- What the first byte of a record tells the instruments. -/
def recordFirstByteUpdates (r : Record) : List Update :=
  if r.firstByte.isPositive then
    let protocol := Update.protocol (firstByteLabel r)
    [.count .firstByte protocol, .seconds .timeToFirstByte r.firstByte.toSeconds protocol]
  else []

/-- The success counter of a transport. -/
def successCounter (tags : Attributes) (label : String) : List Update :=
  match Transport.ofLabel? label with
  | some .bitswap => [.count .bitswapSuccess]
  | some .graphsync => [.count .graphsyncSuccess tags]
  | some .http => [.count .httpSuccess tags]
  | none => []

/-- What a successful record tells the instruments. -/
def recordSuccessUpdates (names : Names) (r : Record) : List Update :=
  let label := Transport.label r.transport
  let protocol := Update.protocol label
  .count .success protocol :: successCounter (providerTags names r.provider) label ++
    [.seconds .dealDuration r.duration.toSeconds protocol, .whole .dealSize r.bytes protocol,
     .whole .bandwidth r.bandwidth protocol] ++
    perRequest r.candidates r.filtered (failureCount r)

/-- How a record ends: with a success, or as an indexer failure if nobody was even asked. -/
def endingUpdates (names : Names) (r : Record) : List Update :=
  if r.success then recordSuccessUpdates names r
  else if r.attempts.isEmpty then [.count .indexerFailures]
  else []

/-- What a record tells the instruments. -/
def record (names : Names) (r : Record) : List Update :=
  .count .requests :: attemptsUpdates names [] r.attempts ++ indexerUpdates r ++
    recordFirstByteUpdates r ++ endingUpdates names r

end RetrievalTelemetry.Metering
