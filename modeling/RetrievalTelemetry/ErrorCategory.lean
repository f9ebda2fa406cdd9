/-
Categories of failures.

A message belongs to the first category one of whose marks occurs in it; the marks are tried
in a fixed order, so a message with two marks belongs to the earlier one.
-/
import RetrievalTelemetry.Text.Search

namespace RetrievalTelemetry

/-- The categories of failed attempts. -/
inductive ErrorCategory where
  | rejected
  | tooMany
  | acl
  | maintenance
  | noOnline
  | unconfirmed
  | timeout
  | noUnsealed
  | dagstore
  | graphsync
  | failedToDial
  | other
deriving DecidableEq, Repr

namespace ErrorCategory

def all : List ErrorCategory :=
  [rejected, tooMany, acl, maintenance, noOnline, unconfirmed, timeout, noUnsealed, dagstore, graphsync,
   failedToDial, other]

def name : ErrorCategory → String
  | rejected => "rejected"
  | tooMany => "toomany"
  | acl => "acl"
  | maintenance => "maintenance"
  | noOnline => "noonline"
  | unconfirmed => "unconfirmed"
  | timeout => "timeout"
  | noUnsealed => "nounsealed"
  | dagstore => "dagstore"
  | graphsync => "graphsync"
  | failedToDial => "failedtodial"
  | other => "other"

/-- The marks, in the order in which they are tried. -/
def marks : List (String × ErrorCategory) :=
  [("response rejected", rejected),
   ("Too many retrieval deals received", tooMany),
   ("Access Control", acl),
   ("Under maintenance, retry later", maintenance),
   ("miner is not accepting online retrieval deals", noOnline),
   ("unconfirmed block transfer", unconfirmed),
   ("timeout after ", timeout),
   ("there is no unsealed piece containing payload cid", noUnsealed),
   ("getting pieces for cid", dagstore),
   ("graphsync request failed to complete: request failed - unknown reason", graphsync),
   ("failed to dial", failedToDial)]

/-- The category of a failure message. -/
def ofMessage (message : String) : ErrorCategory :=
  match marks.find? fun mark => Text.contains message mark.1 with
  | some mark => mark.2
  | none => other

end ErrorCategory

end RetrievalTelemetry
