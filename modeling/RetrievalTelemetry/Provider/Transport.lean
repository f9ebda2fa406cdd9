/-
Providers and transports.

An event names no transport: it either concerns no single provider, and then the transport
is bitswap, or it names one, and then it is graphsync.  A record names the transport of each
attempt by its multicodec name; a name that is not known stays as it is, so that it can
still be told apart in the metrics.
-/
namespace RetrievalTelemetry

/-- The families of transports. -/
inductive Transport where
  | bitswap
  | graphsync
  | http
deriving DecidableEq, Repr

namespace Transport

/-- The value of the `protocol` attribute. -/
def name : Transport → String
  | bitswap => "bitswap"
  | graphsync => "graphsync"
  | http => "http"

/-- The provider id of bitswap events. -/
def bitswapProvider : String := "Bitswap"

/-- Whether a provider id stands for no single provider. -/
def isAgnostic (provider : String) : Bool := provider == "" || provider == bitswapProvider

/-- The transport of an event about a provider. -/
def ofProvider (provider : String) : Transport :=
  if isAgnostic provider then bitswap else graphsync

/-- The multicodec name of a family. -/
def multicodec : Transport → String
  | bitswap => "transport-bitswap"
  | graphsync => "transport-graphsync-filecoinv1"
  | http => "transport-ipfs-gateway-http"

/-- The family with a multicodec name. -/
def ofMulticodec? (codec : String) : Option Transport :=
  [bitswap, graphsync, http].find? fun t => t.multicodec == codec

/-- The `protocol` attribute for a multicodec name: the family, or the name itself if it is of no
known family. -/
def label (codec : String) : String :=
  match ofMulticodec? codec with
  | some t => t.name
  | none => codec

/-- The family that a `protocol` attribute names. -/
def ofLabel? (label : String) : Option Transport :=
  [bitswap, graphsync, http].find? fun t => t.name == label

end Transport

end RetrievalTelemetry
