/-
Encodings of text: one, two or four bytes for a unit.

A mark at the beginning tells the encoding.  Without one, a text that begins with two ASCII
characters gives it away by the places of its zero bytes.

Half a surrogate pair denotes no character, but it does not spoil the text: it is read as the
replacement character.
-/
import RetrievalTelemetry.Text.DecimalDigit

namespace RetrievalTelemetry.Text

/-- How characters are written as bytes. -/
inductive Encoding where
  | utf8
  | utf16 (bigEndian : Bool)
  | utf32 (bigEndian : Bool)
deriving DecidableEq, Repr

/-- The character for what is none. -/
def replacement : Char := '\uFFFD'

/-- Whether a code point is half of a surrogate pair. -/
def isSurrogate (n : Nat) : Bool := 0xD800 ≤ n && n < 0xE000

/-- The character of a code point; none beyond the last one. -/
def charOf? (n : Nat) : Option Char :=
  if isSurrogate n then some replacement else if 0x10FFFF < n then none else some (Char.ofNat n)

namespace Encoding

/-- The encoding of a text whose first bytes hold ASCII, by their zeros. -/
def ofZeros : List UInt8 → Encoding
  | a :: b :: c :: d :: _ =>
    if a = 0 then (if b = 0 then .utf32 true else .utf16 true)
    else if b = 0 then (if c = 0 && d = 0 then .utf32 false else .utf16 false)
    else .utf8
  | [a, b] => if a = 0 then .utf16 true else if b = 0 then .utf16 false else .utf8
  | _ => .utf8

/-- The encoding of a text and its bytes behind the mark. -/
def detect : List UInt8 → Encoding × List UInt8
  | 0x00 :: 0x00 :: 0xFE :: 0xFF :: rest => (.utf32 true, rest)
  | 0xFF :: 0xFE :: 0x00 :: 0x00 :: rest => (.utf32 false, rest)
  | 0xFE :: 0xFF :: rest => (.utf16 true, rest)
  | 0xFF :: 0xFE :: rest => (.utf16 false, rest)
  | 0xEF :: 0xBB :: 0xBF :: rest => (.utf8, rest)
  | bytes => (ofZeros bytes, bytes)

/-- Two bytes as a number. -/
def unit (bigEndian : Bool) (a b : UInt8) : Nat :=
  if bigEndian then 256 * a.toNat + b.toNat else 256 * b.toNat + a.toNat

/-- The units of two bytes. -/
def units16 (bigEndian : Bool) : List UInt8 → Option (List Nat)
  | [] => some []
  | a :: b :: rest => (units16 bigEndian rest).map (unit bigEndian a b :: ·)
  | [_] => none

/-- The units of four bytes. -/
def units32 (bigEndian : Bool) : List UInt8 → Option (List Nat)
  | [] => some []
  | a :: b :: c :: d :: rest =>
    let n := if bigEndian then 65536 * unit true a b + unit true c d
      else 65536 * unit false c d + unit false a b
    (units32 bigEndian rest).map (n :: ·)
  | _ => none

/-- Code points, with surrogate pairs joined. -/
def joinPairs : List Nat → List Nat
  | u :: v :: rest =>
    if 0xD800 ≤ u && u < 0xDC00 && 0xDC00 ≤ v && v < 0xE000 then
      (0x10000 + (u - 0xD800) * 0x400 + (v - 0xDC00)) :: joinPairs rest
    else u :: joinPairs (v :: rest)
  | units => units

/-- Bytes of UTF-8 with a replacement for each half of a surrogate pair. -/
def withoutHalves : List UInt8 → List UInt8
  | a :: b :: c :: rest =>
    if a = 0xED && 0xA0 ≤ b && b ≤ 0xBF && 0x80 ≤ c && c ≤ 0xBF then
      0xEF :: 0xBF :: 0xBD :: withoutHalves rest
    else a :: withoutHalves (b :: c :: rest)
  | bytes => bytes

/-- The text that bytes denote. -/
def decode? : Encoding → List UInt8 → Option String
  | utf8, bytes => String.fromUTF8? ⟨(withoutHalves bytes).toArray⟩
  | utf16 bigEndian, bytes =>
    (units16 bigEndian bytes).bind fun units => ((joinPairs units).mapM charOf?).map String.ofList
  | utf32 bigEndian, bytes =>
    (units32 bigEndian bytes).bind fun units => (units.mapM charOf?).map String.ofList

end Encoding

/-- The text that bytes denote, in the encoding that they seem to be in. -/
def ofBytes? (bytes : ByteArray) : Option String :=
  let (encoding, rest) := Encoding.detect bytes.toList
  encoding.decode? rest

end RetrievalTelemetry.Text
