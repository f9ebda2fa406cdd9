/-
Quoted text, as messages and log lines show it.

The quote is single unless the text holds a single quote and no double one.  The
backslash, the chosen quote and the three common control characters have escapes
of two characters; every other character that does not print is written by its code
point, in the shortest of the forms with two, four and eight digits.
-/
import RetrievalTelemetry.Text.DecimalDigit
import RetrievalTelemetry.Text.Printable

namespace RetrievalTelemetry.Text

/-- The quote around `cs`. -/
def quoteFor (cs : List Char) : Char :=
  if cs.contains '\x27' && !cs.contains '\x22' then '\x22' else '\x27'

/-- One character of a text that stands between two `quote`s. -/
def quotedChar (quote c : Char) : String :=
  if c = '\\' then "\\\\"
  else if c = quote then String.ofList ['\\', c]
  else if c = '\n' then "\\n"
  else if c = '\r' then "\\r"
  else if c = '\t' then "\\t"
  else if isPrintable c then String.singleton c
  else if c.toNat < 0x100 then "\\x" ++ hexText 2 c.toNat
  else if c.toNat < 0x10000 then "\\u" ++ hexText 4 c.toNat
  else "\\U" ++ hexText 8 c.toNat

/-- `s` between quotes. -/
def quoted (s : String) : String :=
  let quote := quoteFor s.toList
  String.singleton quote ++ String.join (s.toList.map (quotedChar quote)) ++ String.singleton quote

end RetrievalTelemetry.Text
