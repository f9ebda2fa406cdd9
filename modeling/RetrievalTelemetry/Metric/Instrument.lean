/-
The instruments: counters, and histograms with fixed boundaries.

Names, descriptions, units and boundaries are what dashboards rely on.  There is one error
counter for each category of failures, named for it.
-/
import RetrievalTelemetry.ErrorCategory
import RetrievalTelemetry.Number
import RetrievalTelemetry.Vocabulary

namespace RetrievalTelemetry

/-- Counters that only grow. -/
inductive Counter where
  | requests
  | indexerFailures
  | candidates
  | candidatesFiltered
  | bitswapAttempts
  | graphsyncAttempts
  | httpAttempts
  | firstByte
  | success
  | bitswapSuccess
  | graphsyncSuccess
  | httpSuccess
  | expired
  | graphsyncFailures
  | httpFailures
  | queryAsked
  | queryAskedFiltered
  | queryFailures
  | error (category : ErrorCategory)
deriving DecidableEq, Repr

namespace Counter

def all : List Counter :=
  [requests, indexerFailures, candidates, candidatesFiltered, bitswapAttempts, graphsyncAttempts,
   httpAttempts, firstByte, success, bitswapSuccess, graphsyncSuccess, httpSuccess, expired,
   graphsyncFailures, httpFailures, queryAsked, queryAskedFiltered, queryFailures] ++
  ErrorCategory.all.map error

def name : Counter → String
  | requests => "total_request_count"
  | indexerFailures => "requests_with_indexer_failures"
  | candidates => "request_with_indexer_candidates_total"
  | candidatesFiltered => "request_with_indexer_candidates_filtered_total"
  | bitswapAttempts => "request_with_bitswap_attempts"
  | graphsyncAttempts => "request_with_graphsync_attempts"
  | httpAttempts => "request_with_http_attempts"
  | firstByte => "request_with_first_byte_received"
  | success => "request_with_success"
  | bitswapSuccess => "request_with_bitswap_success"
  | graphsyncSuccess => "request_with_graphsync_success"
  | httpSuccess => "request_with_http_success"
  | expired => "request_expired_total"
  | graphsyncFailures => "graphsync_retrieval_failure_total"
  | httpFailures => "http_retrieval_failure_total"
  | queryAsked => "query_asked_total"
  | queryAskedFiltered => "query_asked_filtered_total"
  | queryFailures => "query_failure_total"
  | error category => "retrieval_error_" ++ category.name ++ "_total"

def errorDescription : ErrorCategory → String
  | .rejected => "Retrieval errors for 'response rejected'"
  | .tooMany => "Retrieval errors for 'Too many retrieval deals received'"
  | .acl => "Retrieval errors for 'Access Control'"
  | .maintenance => "Retrieval errors for 'Under maintenance, retry later'"
  | .noOnline => "Retrieval errors for 'miner is not accepting online retrieval deals'"
  | .unconfirmed => "Retrieval errors for 'unconfirmed block transfer'"
  | .timeout => "Retrieval errors for 'timeout after X'"
  | .noUnsealed => "Retrieval errors for 'there is no unsealed piece containing payload cid'"
  | .dagstore => "Retrieval errors for 'getting pieces for cid'"
  | .graphsync => "Retrieval errors for graphsync requests failing for an unknown reason"
  | .failedToDial => "Retrieval errors for 'failed to dial'"
  | .other => "Retrieval errors with uncategorized causes"

def description : Counter → String
  | requests => "Distinct retrievals reported to the recorder"
  | indexerFailures => "Retrievals that failed at the indexer phase"
  | candidates => "Retrievals that received non-zero candidates from the indexer"
  | candidatesFiltered => "Retrievals with non-zero indexer candidates after filtering"
  | bitswapAttempts => "Retrievals where a bitswap retrieval was attempted"
  | graphsyncAttempts => "Retrievals where a graphsync retrieval was attempted"
  | httpAttempts => "Retrievals where an HTTP retrieval was attempted"
  | firstByte => "Retrievals where a non-zero number of bytes were received"
  | success => "Successful retrievals (all bytes received)"
  | bitswapSuccess => "Successful retrievals over bitswap"
  | graphsyncSuccess => "Successful retrievals over graphsync"
  | httpSuccess => "Successful retrievals over HTTP"
  | expired => "Retrievals finalized by expiry without a terminal event"
  | graphsyncFailures => "Failed graphsync retrieval attempts per storage provider"
  | httpFailures => "Failed HTTP retrieval attempts per storage provider"
  | queryAsked => "Query asks answered by storage providers"
  | queryAskedFiltered => "Query asks answered but filtered out"
  | queryFailures => "Query asks that failed"
  | error category => errorDescription category

def ofName : String → Except UnknownName Counter := findNamed "CounterName" all name

end Counter

/-- Histograms. -/
inductive Histogram where
  | timeToFirstCandidate
  | timeToFirstByte
  | dealDuration
  | dealSize
  | bandwidth
  | candidatesPerRequest
  | filteredPerRequest
  | failuresPerRequest
deriving DecidableEq, Repr

namespace Histogram

def all : List Histogram :=
  [timeToFirstCandidate, timeToFirstByte, dealDuration, dealSize, bandwidth, candidatesPerRequest,
   filteredPerRequest, failuresPerRequest]

def name : Histogram → String
  | timeToFirstCandidate => "time_to_first_indexer_result"
  | timeToFirstByte => "time_to_first_byte"
  | dealDuration => "retrieval_deal_duration_seconds"
  | dealSize => "retrieval_deal_size_bytes"
  | bandwidth => "bandwidth_bytes_per_second"
  | candidatesPerRequest => "indexer_candidates_per_request_total"
  | filteredPerRequest => "indexer_candidates_filtered_per_request_total"
  | failuresPerRequest => "failed_retrievals_per_request_total"

def description : Histogram → String
  | timeToFirstCandidate => "The time to first indexer result in seconds"
  | timeToFirstByte => "The time to first byte in seconds"
  | dealDuration => "The duration in seconds of a retrieval deal with a storage provider"
  | dealSize => "The size in bytes of a retrieval deal with a storage provider"
  | bandwidth => "Average bytes transferred per second"
  | candidatesPerRequest => "The number of indexer candidates received per request"
  | filteredPerRequest => "The number of filtered indexer candidates received per request"
  | failuresPerRequest => "The number of failed retrieval attempts per request"

def unit : Histogram → String
  | timeToFirstCandidate => "s"
  | timeToFirstByte => "s"
  | dealDuration => "s"
  | dealSize => "By"
  | bandwidth => "By/s"
  | candidatesPerRequest => "1"
  | filteredPerRequest => "1"
  | failuresPerRequest => "1"

/-- The double nearest to a number of hundredths. -/
def hundredths (n : Nat) : Number := .double (Binary64.ofRatio false n 100)

/-- The upper bounds of the buckets, least first; the last bucket has none. -/
def boundaries : Histogram → List Number
  | timeToFirstCandidate =>
    [.int 0, hundredths 1, hundredths 5, hundredths 25, hundredths 50, .int 1, .int 5, .int 25]
  | timeToFirstByte =>
    [.int 0, hundredths 1, hundredths 5, hundredths 25, hundredths 50, .int 1, .int 5, .int 25, .int 75]
  | dealDuration =>
    [.int 0, hundredths 4, hundredths 20, .int 1, .int 5, .int 25, .int 125, .int 625]
  | dealSize =>
    .int 0 :: [18, 20, 22, 24, 28, 30, 35].map fun k => .int (Nat.pow 2 k)
  | bandwidth =>
    .int 0 :: [14, 18, 20, 22, 24, 27].map fun k => .int (Nat.pow 2 k)
  | candidatesPerRequest => perRequest
  | filteredPerRequest => perRequest
  | failuresPerRequest => perRequest
where
  /-- The bounds for counts per request. -/
  perRequest : List Number := [0, 1, 2, 3, 4, 5, 10, 20, 40].map Number.int

def ofName : String → Except UnknownName Histogram := findNamed "HistogramName" all name

end Histogram

end RetrievalTelemetry
