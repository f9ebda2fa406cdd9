/-
Bytes as text in base sixty-four.

Four digits hold three bytes.  Characters that are no digits are passed over, and the padding that
fills up a group of four digits ends the text.
-/
namespace RetrievalTelemetry.Text

/-- The value of a digit of base sixty-four. -/
def base64Digit? (c : Char) : Option Nat :=
  if c.isUpper then some (c.toNat - 65)
  else if c.isLower then some (c.toNat - 97 + 26)
  else if c.isDigit then some (c.toNat - 48 + 52)
  else if c = '+' then some 62
  else if c = '/' then some 63
  else none

/-- The bytes that digits hold: in a group that has begun there are `count` digits with the value
`bits`, and `pads` signs of padding behind them.  A group that is neither full nor filled up holds no
bytes. -/
def base64From (count bits pads : Nat) : List Char → Option (List UInt8)
  | [] => if count = 0 then some [] else none
  | c :: rest =>
    if c = '=' then
      if 2 ≤ count && 4 ≤ count + (pads + 1) then some [] else base64From count bits (pads + 1) rest
    else
      match base64Digit? c with
      | none => base64From count bits pads rest
      | some digit =>
        let bits := 64 * bits + digit
        let byte (low : Nat) : UInt8 := UInt8.ofNat (bits / low)
        match count with
        | 0 => base64From 1 bits 0 rest
        | 1 => (base64From 2 (bits % 16) 0 rest).map (byte 16 :: ·)
        | 2 => (base64From 3 (bits % 4) 0 rest).map (byte 4 :: ·)
        | _ => (base64From 0 0 0 rest).map (byte 1 :: ·)

/-- The bytes that a text in base sixty-four holds. -/
def base64Bytes? (cs : List Char) : Option (List UInt8) := base64From 0 0 0 cs

end RetrievalTelemetry.Text
