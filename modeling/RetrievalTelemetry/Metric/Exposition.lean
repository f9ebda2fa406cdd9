/-
The meter as text, for scraping.

A counter is listed under a name that ends in `_total`, a histogram under one that ends in its
unit.  The buckets of a histogram are cumulative: the line of a bound counts all samples up
to it.
-/
import RetrievalTelemetry.Metric.Meter
import RetrievalTelemetry.Text.Search

namespace RetrievalTelemetry.Exposition

/-- `name` with `ending`, unless it ends so already. -/
def withEnding (ending name : String) : String :=
  if ending.toList.isSuffixOf name.toList then name else name ++ ending

/-- The ending that stands for a unit. -/
def unitEnding (unit : String) : String :=
  if unit = "s" then "_seconds"
  else if unit = "By" then "_bytes"
  else if unit = "By/s" then "_bytes_per_second"
  else ""

def counterName (c : Counter) : String := withEnding "_total" c.name

def histogramName (h : Histogram) : String := withEnding (unitEnding h.unit) h.name

/-- One character in the value of a label. -/
def escapedChar (c : Char) : String :=
  if c = '\\' then "\\\\"
  else if c = '\n' then "\\n"
  else if c = '\x22' then "\\\x22"
  else String.singleton c

/-- The labels of a line between braces; none at all without labels. -/
def labels (attributes : Attributes) : String :=
  if attributes.isEmpty then ""
  else
    let parts := attributes.map fun a =>
      a.1 ++ "=\x22" ++ String.join (a.2.toList.map escapedChar) ++ "\x22"
    "\x7b" ++ String.intercalate "," parts ++ "\x7d"

/-- Spellings of doubles that have no word for infinity but a sign. -/
def style : DoubleStyle where
  nan := "NaN"
  infinity := "+Inf"
  negativeInfinity := "-Inf"

/-- The text of a value.  Above a million the digits are moved behind the first one, and the exponent
counts them. -/
def value (x : Binary64) : String :=
  let text := (style.render x).toList
  let whole := text.takeWhile (· ≠ '.')
  if 6 < whole.length && text.contains '.' && (Binary64.zero false).lt x then
    let mantissa := whole.take 1 ++ ['.'] ++ whole.drop 1 ++ text.drop (whole.length + 1)
    let bare := (mantissa.reverse.dropWhile fun c => c = '0' || c = '.').reverse
    String.ofList bare ++ "e+" ++ Text.padded 2 (whole.length - 1)
  else String.ofList text

def line (name : String) (attributes : Attributes) (x : Binary64) : String :=
  name ++ labels (Meter.series attributes) ++ " " ++ value x

/-- The two lines in front of an instrument. -/
def heading (name kind description : String) : List String :=
  ["# HELP " ++ name ++ " " ++ description, "# TYPE " ++ name ++ " " ++ kind]

/-- The sums of the first one, two, three and so on of a list. -/
def cumulative (total : Nat) : List Nat → List Nat
  | [] => []
  | n :: rest => (total + n) :: cumulative (total + n) rest

/-- The lines of one series of a histogram; a sum that is too large for a double has none. -/
def distributionLines (h : Histogram) (attributes : Attributes) (d : Distribution) :
    Except ArithmeticError (List String) :=
  let name := histogramName h
  let bounds := h.boundaries.map (Number.render .plain) ++ ["+Inf"]
  let buckets := (bounds.zip (cumulative 0 d.buckets)).map fun b =>
    line (name ++ "_bucket") (attributes ++ [("le", b.1)]) (Binary64.ofInt b.2)
  match d.sum.toDouble? with
  | none => .error .tooLarge
  | some sum =>
    .ok (buckets ++
      [line (name ++ "_count") attributes (Binary64.ofInt d.count), line (name ++ "_sum") attributes sum])

def counterLines (m : Meter) (c : Counter) : List String :=
  match m.sumsOf c with
  | [] => []
  | sums =>
    heading (counterName c) "counter" c.description ++
      sums.map fun s => line (counterName c) s.1 (Binary64.ofInt s.2)

def histogramLines (m : Meter) (h : Histogram) : Except ArithmeticError (List String) :=
  match m.distributionsOf h with
  | [] => .ok []
  | all =>
    (all.mapM fun s => distributionLines h s.1 s.2).map fun lines =>
      heading (histogramName h) "histogram" h.description ++ lines.flatten

/-- All lines for a meter. -/
def lines (m : Meter) : Except ArithmeticError (List String) :=
  (Histogram.all.mapM (histogramLines m)).map fun lines =>
    Counter.all.flatMap (counterLines m) ++ lines.flatten

end RetrievalTelemetry.Exposition
