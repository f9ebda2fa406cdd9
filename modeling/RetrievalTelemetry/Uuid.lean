/-
Universally unique identifiers: 128 bits.
-/
import RetrievalTelemetry.Text.DecimalDigit

namespace RetrievalTelemetry

/-- An identifier of 128 bits. -/
structure Uuid where
  bits : BitVec 128
deriving DecidableEq, Repr, Inhabited

namespace Uuid

/-- The number that a list of hexadecimal digits denotes, if all of them are. -/
def hexValue? (cs : List Char) : Option Nat :=
  cs.foldlM (fun n c => (Text.hexDigit? c).map (16 * n + ·)) 0

/-- The identifier that 32 digits denote. -/
def ofDigits? (cs : List Char) : Option Uuid :=
  if cs.length = 32 then (hexValue? cs).map fun n => ⟨BitVec.ofNat 128 n⟩ else none

/-- The identifier that digits in groups of 8, 4, 4, 4 and 12 denote, with hyphens in between. -/
def ofGroups? (cs : List Char) : Option Uuid :=
  if cs.length = 36 ∧ [8, 13, 18, 23].all (fun i => cs[i]? = some '-') then
    ofDigits? (cs.take 8 ++ (cs.drop 9).take 4 ++ (cs.drop 14).take 4 ++ (cs.drop 19).take 4 ++ cs.drop 24)
  else none

/-- The identifier that a text denotes: bare digits, groups, groups in braces, or groups behind
`urn:uuid:`. -/
def ofText? (text : String) : Option Uuid :=
  let cs := text.toList
  let urn := "urn:uuid:".toList
  if cs.length = 32 then ofDigits? cs
  else if cs.length = 36 then ofGroups? cs
  else if cs.length = 38 then
    if cs.head? = some '{' ∧ cs.getLast? = some '}' then ofGroups? (cs.drop 1).dropLast else none
  else if cs.length = 45 ∧ urn.isPrefixOf cs then ofGroups? (cs.drop urn.length)
  else none

/-- The lowercase text with hyphens. -/
def render (u : Uuid) : String :=
  let digits := (Text.hexText 32 u.bits.toNat).toList
  let group := fun (start length : Nat) => String.ofList ((digits.drop start).take length)
  String.intercalate "-" [group 0 8, group 8 4, group 12 4, group 16 4, group 20 12]

end Uuid

end RetrievalTelemetry
