/-
Names of hosts in ASCII: the encoding that hides other characters in letters and digits.

The basic characters come first, in order.  The others follow from the least to the greatest,
each as the number of steps that lead to it, where a step moves one place through the text and
then on to the next code point.  The numbers are written in base thirty-six with digits of
varying weight, and the weights adapt to the size of the numbers so far.
-/
import RetrievalTelemetry.Text.DecimalDigit

namespace RetrievalTelemetry.Text.Punycode

/-- The character of a digit: letters first. -/
def digit (d : Nat) : Char :=
  if d < 26 then Char.ofNat (0x61 + d) else Char.ofNat (0x30 + d - 26)

/-- The least digit that ends no number at a place. -/
def threshold (place bias : Nat) : Nat :=
  if place ≤ bias then 1 else if bias + 26 ≤ place then 26 else place - bias

theorem threshold_bounds (place bias : Nat) :
    1 ≤ threshold place bias ∧ threshold place bias ≤ 26 := by
  unfold threshold
  split
  · omega
  · split <;> omega

/-- Divides by thirty-five until little is left; `bias` grows by thirty-six each time. -/
def shrink (bias delta : Nat) : Nat :=
  if 455 < delta then shrink (bias + 36) (delta / 35) else bias + 36 * delta / (delta + 38)
termination_by delta
decreasing_by exact Nat.div_lt_self (by omega) (by omega)

/-- The bias behind a number, when `count` characters are done. -/
def adapt (isFirst : Bool) (delta count : Nat) : Nat :=
  let delta := if isFirst then delta / 700 else delta / 2
  shrink 0 (delta + delta / count)

def digits (bias place n : Nat) : List Char :=
  let t := threshold place bias
  if n < t then [digit n]
  else digit (t + (n - t) % (36 - t)) :: digits bias (place + 36) ((n - t) / (36 - t))
termination_by n
decreasing_by
  have h := threshold_bounds place bias
  calc (n - threshold place bias) / (36 - threshold place bias)
      ≤ n - threshold place bias := Nat.div_le_self _ _
    _ < n := by omega

/-- How far an encoding has come. -/
structure Progress where
  /-- The steps since the last number. -/
  steps : Nat := 0
  bias : Nat := 72
  /-- The number of characters that are done. -/
  count : Nat
  /-- What was written. -/
  written : List Char := []

/-- Passes a place of the text while `code` is being looked for. -/
def pass (basic code : Nat) (p : Progress) (c : Char) : Progress :=
  if c.toNat < code then { p with steps := p.steps + 1 }
  else if c.toNat = code then
    { steps := 0
      bias := adapt (p.count = basic) p.steps (p.count + 1)
      count := p.count + 1
      written := p.written ++ digits p.bias 36 p.steps }
  else p

/-- Goes through the text once for each code point, in order; `next` is the least one that is not yet
looked for. -/
def rounds (text : List Char) (basic : Nat) : (codes : List Nat) → (next : Nat) → Progress → Progress
  | [], _, p => p
  | code :: codes, next, p =>
    let p := { p with steps := p.steps + (code - next) * (p.count + 1) }
    let p := text.foldl (pass basic code) p
    rounds text basic codes (code + 1) { p with steps := p.steps + 1 }

def encode (text : List Char) : List Char :=
  let basic := text.filter fun c => c.toNat < 0x80
  let codes := (text.filter fun c => 0x80 ≤ c.toNat).map Char.toNat
  let sorted := (codes.mergeSort (· ≤ ·)).eraseDups
  basic ++ (if basic.isEmpty then [] else ['-']) ++
    (rounds text basic.length sorted 0x80 { count := basic.length }).written

end RetrievalTelemetry.Text.Punycode
