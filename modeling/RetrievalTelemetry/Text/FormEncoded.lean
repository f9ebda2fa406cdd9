/-
Text in the query of an address.

Letters, digits and four marks stand for themselves, a space is written as a plus, and every
other character by percent signs.  A query is a list of names with values, which are read back
with the same signs.
-/
import RetrievalTelemetry.Text.Replacing
import RetrievalTelemetry.Text.Search

namespace RetrievalTelemetry.Text

/-- One character in a query. -/
def formEncodedChar (c : Char) : List Char :=
  if isUnreserved c then [c] else if c = ' ' then ['+'] else percentChar c

/-- A text in a query. -/
def formEncoded (s : String) : String :=
  String.ofList (s.toList.flatMap formEncodedChar)

/-- The text that stands in a query. -/
def formDecoded (cs : List Char) : String :=
  percentDecoded (cs.map fun c => if c = '+' then ' ' else c)

/-- The names with values in a query, in order; a name without a value is left out. -/
def queryFields (query : List Char) : List (String × String) :=
  (splitBy (· = '&') query).filterMap fun field =>
    let name := field.takeWhile (· ≠ '=')
    let value := (field.drop name.length).drop 1
    if value.isEmpty then none else some (formDecoded name, formDecoded value)

end RetrievalTelemetry.Text
