/-
Reading bytes as UTF-8, with the replacement character for what is none.

The longest beginning of a character that is not completed counts as one mistake, and so does every
byte that begins no character.
-/
import RetrievalTelemetry.Text.Encoding
import RetrievalTelemetry.Text.PercentEncoded

namespace RetrievalTelemetry.Text

/-- The beginning of a character of several bytes. -/
structure OpenChar where
  /-- The bits so far. -/
  bits : Nat
  /-- The number of bytes to come. -/
  missing : Nat
  /-- The range of the next byte. -/
  least : Nat := 0x80
  greatest : Nat := 0xBF
deriving DecidableEq, Repr

/-- What a byte begins: a character, one that needs further bytes, or none. -/
def beginChar (b : Nat) : List Char × Option OpenChar :=
  if b < 0x80 then ([Char.ofNat b], none)
  else if 0xC2 ≤ b && b ≤ 0xDF then ([], some ⟨b - 0xC0, 1, 0x80, 0xBF⟩)
  else if b = 0xE0 then ([], some ⟨0, 2, 0xA0, 0xBF⟩)
  else if b = 0xED then ([], some ⟨0xD, 2, 0x80, 0x9F⟩)
  else if 0xE1 ≤ b && b ≤ 0xEF then ([], some ⟨b - 0xE0, 2, 0x80, 0xBF⟩)
  else if b = 0xF0 then ([], some ⟨0, 3, 0x90, 0xBF⟩)
  else if 0xF1 ≤ b && b ≤ 0xF3 then ([], some ⟨b - 0xF0, 3, 0x80, 0xBF⟩)
  else if b = 0xF4 then ([], some ⟨4, 3, 0x80, 0x8F⟩)
  else ([replacement], none)

/-- What the next byte makes of an open character; one that does not go on with it begins anew. -/
def OpenChar.next (o : OpenChar) (b : Nat) : List Char × Option OpenChar :=
  if o.least ≤ b && b ≤ o.greatest then
    let bits := 64 * o.bits + (b - 0x80)
    if o.missing ≤ 1 then ([Char.ofNat bits], none) else ([], some ⟨bits, o.missing - 1, 0x80, 0xBF⟩)
  else
    let (read, now) := beginChar b
    (replacement :: read, now)

/-- The characters of bytes behind an open character. -/
def charsFrom : Option OpenChar → List UInt8 → List Char
  | before, [] => before.elim [] fun _ => [replacement]
  | before, b :: rest =>
    let (read, now) := match before with
      | some o => o.next b.toNat
      | none => beginChar b.toNat
    read ++ charsFrom now rest

/-- The text that bytes denote, with replacements. -/
def ofBytesReplacing (bytes : List UInt8) : String := String.ofList (charsFrom none bytes)

/-- A text with its percent escapes decoded. -/
def percentDecoded (cs : List Char) : String := ofBytesReplacing (percentDecodedBytes cs)

end RetrievalTelemetry.Text
