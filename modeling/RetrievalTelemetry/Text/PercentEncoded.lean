/-
Percent signs for characters that may not stand in an address.

A character that is not kept is written as the bytes of its UTF-8 encoding, each by a percent
sign and two hexadecimal digits.  Escapes that are there already stay as they are.
-/
import RetrievalTelemetry.Text.DecimalDigit

namespace RetrievalTelemetry.Text

/-- Whether `c` never needs an escape. -/
def isUnreserved (c : Char) : Bool :=
  c.isAlphanum || c = '-' || c = '.' || c = '_' || c = '~'

/-- The escape of a byte. -/
def percentByte (b : UInt8) : List Char :=
  '%' :: (hexText 2 b.toNat).toUpper.toList

/-- The escapes of a character. -/
def percentChar (c : Char) : List Char :=
  (String.singleton c).toUTF8.toList.flatMap percentByte

/-- A text with escapes for the characters that are neither unreserved nor kept. -/
def percentEncoded (keeps : Char → Bool) : List Char → List Char
  | [] => []
  | '%' :: a :: b :: rest =>
    if (hexDigit? a).isSome && (hexDigit? b).isSome then '%' :: a :: b :: percentEncoded keeps rest
    else (if keeps '%' then ['%'] else percentChar '%') ++ percentEncoded keeps (a :: b :: rest)
  | c :: rest => (if isUnreserved c || keeps c then [c] else percentChar c) ++ percentEncoded keeps rest

/-- The bytes of a text in which escapes stand for bytes. -/
def percentDecodedBytes : List Char → List UInt8
  | [] => []
  | '%' :: a :: b :: rest =>
    match hexDigit? a, hexDigit? b with
    | some high, some low => UInt8.ofNat (16 * high + low) :: percentDecodedBytes rest
    | _, _ => (0x25 : UInt8) :: percentDecodedBytes (a :: b :: rest)
  | c :: rest => (String.singleton c).toUTF8.toList ++ percentDecodedBytes rest

end RetrievalTelemetry.Text
