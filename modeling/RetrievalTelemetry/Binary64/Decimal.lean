/-
Doubles and decimal numerals.

`ofDecimal` reads `±digits · 10^exponent`, rounding once.  `shortest` goes back: of all
decimals that read back as the same double it gives one with the fewest digits, and of
those the nearest.

A decimal reads back as `m · 2^e` exactly if it lies between the midpoints to the two
neighbouring doubles, the midpoints themselves included when `m` is even.  If any point
of a decimal grid lies there, so does one of the two grid points next to the double, so
those two are all that has to be tried on each grid.
-/
import RetrievalTelemetry.Binary64.Basic

namespace RetrievalTelemetry

/-- A decimal `digits · 10^exponent`. -/
structure Decimal where
  digits : Nat
  exponent : Int
deriving DecidableEq, Repr

namespace Decimal

/-- The value as a ratio of natural numbers. -/
def ratio (d : Decimal) : Nat × Nat :=
  if 0 ≤ d.exponent then (d.digits * Nat.pow 10 d.exponent.toNat, 1)
  else (d.digits, Nat.pow 10 (-d.exponent).toNat)

/-- Drops trailing zeros, at most `fuel` of them. -/
def stripZeros : (fuel : Nat) → Decimal → Decimal
  | 0, d => d
  | fuel + 1, d =>
    if d.digits ≠ 0 ∧ d.digits % 10 = 0 then stripZeros fuel ⟨d.digits / 10, d.exponent + 1⟩ else d

/-- The number of digits. -/
def length (d : Decimal) : Nat := (toString d.digits).length

end Decimal

namespace Binary64

/-- The double nearest to `±digits · 10^exponent`.  Exponents far outside the range of doubles
are decided by the number of digits alone. -/
def ofDecimal (negative : Bool) (d : Decimal) : Binary64 :=
  if d.digits = 0 then zero negative
  else
    let magnitude := (d.length : Int) + d.exponent
    if 400 < magnitude then infinity negative
    else if magnitude < -400 then zero negative
    else ofRatio negative d.ratio.1 d.ratio.2

/-- The greatest `k` with `10^k ≤ num / den`, for positive arguments: the estimate from the binary
logarithm is at most one too small. -/
def floorLog10 (num den : Nat) : Int :=
  let estimate := (floorLog2 num den * 30103).fdiv 100000
  let next := (Decimal.mk 1 (estimate + 1)).ratio
  let here := (Decimal.mk 1 estimate).ratio
  if next.1 * den ≤ num * next.2 then estimate + 1
  else if here.1 * den ≤ num * here.2 then estimate
  else estimate - 1

/-- Whether the decimal reads back as `m · 2^e`. -/
def readsBack (m : Nat) (e : Int) (d : Decimal) : Bool :=
  let below := if m = leastFull ∧ minExponent < e then 4 * m - 1 else 4 * m - 2
  let above := 4 * m + 2
  let (num, den) := d.ratio
  -- compare `num / den` with `below · 2^(e-2)` and `above · 2^(e-2)`
  let (up, down) := if 0 ≤ e - 2 then (Nat.pow 2 (e - 2).toNat, 1) else (1, Nat.pow 2 (2 - e).toNat)
  let left := below * up * den
  let right := above * up * den
  let point := num * down
  if m % 2 = 0 then left ≤ point && point ≤ right else left < point && point < right

/-- The grid point with `n` digits that reads back as `m · 2^e`, if there is one; `order` is the
decimal logarithm of the double. -/
def onGrid (m : Nat) (e : Int) (num den : Nat) (order : Int) (n : Nat) : Option Decimal :=
  let k := order - n + 1
  let (unitNum, unitDen) := (Decimal.mk 1 k).ratio
  let top := num * unitDen
  let bottom := den * unitNum
  let low := Decimal.mk (top / bottom) k
  let high := Decimal.mk (top / bottom + 1) k
  match readsBack m e low, readsBack m e high with
  | true, true => some (if nearestEven top bottom = low.digits then low else high)
  | true, false => some low
  | false, true => some high
  | false, false => none

/-- The shortest decimal that reads back as `m · 2^e`, without trailing zeros. -/
def shortest (m : Nat) (e : Int) : Decimal :=
  if m = 0 then ⟨0, 0⟩
  else
    let num := if 0 ≤ e then m * Nat.pow 2 e.toNat else m
    let den := if 0 ≤ e then 1 else Nat.pow 2 (-e).toNat
    let order := floorLog10 num den
    match (List.range 17).findSome? fun i => onGrid m e num den order (i + 1) with
    | some d => d.stripZeros 400
    | none => ⟨nearestEven num den, 0⟩

end Binary64

end RetrievalTelemetry
