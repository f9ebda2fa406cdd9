/-
Double-precision numbers, exactly.

A finite number is a sign, a mantissa and an exponent, so its value is a rational
number.  Every operation works out the exact rational result and rounds it once, to
the nearest double and to the even one of two equally near ones.  `ofRatio` is the only
place where anything is rounded.

The two zeros are told apart by their sign; they compare equal.  A NaN compares with
nothing, not even with itself.
-/
namespace RetrievalTelemetry

/-- A binary64 number; `finite negative m e` has the value `±m · 2^e`. -/
inductive Binary64 where
  | nan
  | infinity (negative : Bool)
  | finite (negative : Bool) (mantissa : Nat) (exponent : Int)
deriving DecidableEq, Repr, Inhabited

/-- The whole number nearest to `num / den`; a half goes to the even neighbour. -/
def nearestEven (num den : Nat) : Nat :=
  let q := num / den
  let twice := 2 * (num % den)
  if twice < den then q
  else if den < twice then q + 1
  else if q % 2 = 0 then q else q + 1

/-- The whole number nearest to `q`; a half goes to the even neighbour. -/
def nearestEvenInt (q : Rat) : Int :=
  if q < 0 then -(nearestEven q.num.natAbs q.den : Int) else nearestEven q.num.natAbs q.den

/-- The greatest `k` with `2^k ≤ num / den`, for positive arguments. -/
def floorLog2 (num den : Nat) : Int :=
  let k : Int := (Nat.log2 num : Int) - Nat.log2 den
  let fits := if 0 ≤ k then den * Nat.pow 2 k.toNat ≤ num else den ≤ num * Nat.pow 2 (-k).toNat
  if fits then k else k - 1

namespace Binary64

/-- The least exponent of a double; numbers that need it may have a short mantissa. -/
def minExponent : Int := -1074

/-- The greatest exponent of a double. -/
def maxExponent : Int := 971

/-- The least mantissa that uses all of its 53 bits. -/
def leastFull : Nat := 0x10000000000000

/-- Positive or negative zero. -/
def zero (negative : Bool) : Binary64 := finite negative 0 minExponent

/-- The double nearest to `±num / den`, infinite if that is too large. -/
def ofRatio (negative : Bool) (num den : Nat) : Binary64 :=
  if num = 0 then zero negative
  else
    let e := max (floorLog2 num den - 52) minExponent
    let m := if 0 ≤ e then nearestEven num (den * Nat.pow 2 e.toNat)
      else nearestEven (num * Nat.pow 2 (-e).toNat) den
    let (m, e) := if m = 2 * leastFull then (leastFull, e + 1) else (m, e)
    if maxExponent < e then infinity negative else finite negative m e

/-- The double nearest to a rational number; zero is positive. -/
def ofRat (q : Rat) : Binary64 := ofRatio (q < 0) q.num.natAbs q.den

/-- The double nearest to a whole number. -/
def ofInt (n : Int) : Binary64 := ofRatio (n < 0) n.natAbs 1

/-- Whether the sign is negative; a NaN has none. -/
def isNegative : Binary64 → Bool
  | nan => false
  | infinity negative => negative
  | finite negative _ _ => negative

/-- Neither infinite nor a NaN. -/
def isFinite : Binary64 → Bool
  | finite .. => true
  | _ => false

/-- Whether `x` is a NaN. -/
def isNaN : Binary64 → Bool
  | nan => true
  | _ => false

/-- `m · 2^e`. -/
def scaled (m : Nat) (e : Int) : Rat :=
  if 0 ≤ e then (m * Nat.pow 2 e.toNat : Nat) else mkRat m (Nat.pow 2 (-e).toNat)

/-- The value of a finite double; zero for the others. -/
def toRat : Binary64 → Rat
  | finite false m e => scaled m e
  | finite true m e => -scaled m e
  | _ => 0

/-- The value of a finite double. -/
def toRat? (x : Binary64) : Option Rat :=
  if x.isFinite then some x.toRat else none

/-- The whole part of a finite double, nearer to zero. -/
def truncate? (x : Binary64) : Option Int :=
  x.toRat?.map fun q => q.num.tdiv q.den

/-- Whether a finite double is a whole number. -/
def isWhole (x : Binary64) : Bool :=
  x.isFinite && x.toRat.den = 1

/-- The opposite number. -/
def neg : Binary64 → Binary64
  | nan => nan
  | infinity negative => infinity !negative
  | finite negative m e => finite (!negative) m e

/-- The rounded sum.  Opposite numbers give positive zero. -/
def add : Binary64 → Binary64 → Binary64
  | nan, _ => nan
  | _, nan => nan
  | infinity a, infinity b => if a = b then infinity a else nan
  | infinity a, finite .. => infinity a
  | finite .., infinity b => infinity b
  | x@(finite a m _), y@(finite b n _) =>
    if m = 0 ∧ n = 0 then zero (a && b) else ofRat (x.toRat + y.toRat)

/-- The rounded difference. -/
def sub (x y : Binary64) : Binary64 := x.add y.neg

/-- The rounded product. -/
def mul : Binary64 → Binary64 → Binary64
  | nan, _ => nan
  | _, nan => nan
  | infinity a, infinity b => infinity (a ^^ b)
  | infinity a, finite b n _ => if n = 0 then nan else infinity (a ^^ b)
  | finite a m _, infinity b => if m = 0 then nan else infinity (a ^^ b)
  | x@(finite a _ _), y@(finite b _ _) =>
    let q := x.toRat * y.toRat
    ofRatio (a ^^ b) q.num.natAbs q.den

/-- The rounded quotient of two doubles. -/
def div : Binary64 → Binary64 → Binary64
  | nan, _ => nan
  | _, nan => nan
  | infinity _, infinity _ => nan
  | infinity a, finite b _ _ => infinity (a ^^ b)
  | finite a _ _, infinity b => zero (a ^^ b)
  | x@(finite a m _), y@(finite b n _) =>
    if n = 0 then (if m = 0 then nan else infinity (a ^^ b))
    else
      let q := x.toRat / y.toRat
      ofRatio (a ^^ b) q.num.natAbs q.den

/-- The order of two doubles, if neither is a NaN. -/
def compare? : Binary64 → Binary64 → Option Ordering
  | nan, _ => none
  | _, nan => none
  | infinity a, infinity b => some (if a = b then .eq else if a then .lt else .gt)
  | infinity a, finite .. => some (if a then .lt else .gt)
  | finite .., infinity b => some (if b then .gt else .lt)
  | x@(finite ..), y@(finite ..) =>
    some (if x.toRat < y.toRat then .lt else if y.toRat < x.toRat then .gt else .eq)

/-- Strictly less; false if either is a NaN. -/
def lt (x y : Binary64) : Bool := x.compare? y == some .lt

/-- Less or equal; false if either is a NaN. -/
def le (x y : Binary64) : Bool :=
  x.compare? y == some .lt || x.compare? y == some .eq

/-- Equal as numbers: the zeros are equal, a NaN is not. -/
def eq (x y : Binary64) : Bool := x.compare? y == some .eq

/-- The fraction `x` keeps after its whole part, with the sign of `x`. -/
def fraction (x : Binary64) : Binary64 :=
  match x.toRat? with
  | none => nan
  | some q => ofRat (q - q.num.tdiv q.den)

/-- The 64 bits of the standard's interchange format: sign, exponent, mantissa. -/
def toBits : Binary64 → Nat
  | nan => 0x7FF8000000000000
  | infinity negative => signBit negative + 0x7FF * leastFull
  | finite negative m e =>
    signBit negative + (if m < leastFull then m else (e + 1075).toNat * leastFull + (m - leastFull))
where
  /-- The highest bit, set for a negative sign. -/
  signBit (negative : Bool) : Nat := if negative then 0x8000000000000000 else 0

end Binary64

end RetrievalTelemetry
