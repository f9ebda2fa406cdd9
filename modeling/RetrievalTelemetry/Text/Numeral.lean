/-
Numbers as people write them: digits of any script with single underscores between them, a sign,
and white space around all.
-/
import RetrievalTelemetry.Binary64.Numeral
import RetrievalTelemetry.Text.Blank
import RetrievalTelemetry.Text.Quoted
import RetrievalTelemetry.Text.Search

namespace RetrievalTelemetry.Text

/-- The most digits that the text of a whole number may have. -/
def maxDigits : Nat := 4300

/-- Why a text is no number. -/
inductive NumeralError where
  | notWhole (base : Nat) (text : String)
  | notNumber (text : String)
  | tooManyDigits (count : Nat)
deriving DecidableEq, Repr

/-- The words for an error; of a long text only the first two hundred characters are shown. -/
def NumeralError.message : NumeralError → String
  | notWhole base text =>
    "invalid literal for int() with base " ++ toString base ++ ": " ++
      String.ofList ((quoted text).toList.take 200)
  | notNumber text => "could not convert string to float: " ++ quoted text
  | tooManyDigits count =>
    "Exceeds the limit (4300 digits) for integer string conversion: value has " ++ toString count ++
      " digits; use sys.set_int_max_str_digits() to increase the limit"

/-- The value of a digit, a letter of ASCII counting from ten on, if it is one of a base. -/
def digitIn? (base : Nat) (c : Char) : Option Nat :=
  let letter := if c.isAlpha then some (c.toLower.toNat - 97 + 10) else none
  ((decimalDigit? c).or letter).filter (· < base)

/-- The letters that announce a base behind a zero. -/
def baseLetters : List (Nat × Char) := [(2, 'b'), (8, 'o'), (16, 'x')]

/-- The digits behind the letter that announces their base, if it is there; one underscore may follow
the letter. -/
def behindBaseLetter (base : Nat) (cs : List Char) : List Char :=
  match cs with
  | '0' :: mark :: rest =>
    if baseLetters.lookup base = some mark.toLower then
      (match rest with
       | '_' :: digits => digits
       | digits => digits)
    else cs
  | _ => cs

/-- The whole number that a text is in a base.  Only the bases that are powers of two admit any number of
digits. -/
def integerIn (base : Nat) (text : String) : Except NumeralError Int :=
  let (sign, body) := splitSign (trim isWhite text.toList)
  let groups := splitBy (· = '_') (behindBaseLetter base body)
  match groups.mapM fun group => if group.isEmpty then none else group.mapM (digitIn? base) with
  | none => .error (.notWhole base text)
  | some digits =>
    let count := digits.flatten.length
    if maxDigits < count && !(baseLetters.lookup base).isSome then .error (.tooManyDigits count)
    else
      let n := digits.flatten.foldl (fun n d => base * n + d) 0
      .ok (if sign = some true then -(n : Int) else n)

/-- The whole number that a text is in base ten. -/
def integer (text : String) : Except NumeralError Int := integerIn 10 text

/-- The text without the underscores that stand between two digits; none if there are others. -/
def withoutSeparators : (before : Option Char) → List Char → Option (List Char)
  | before, '_' :: c :: rest =>
    if before.any Char.isDigit && c.isDigit then (withoutSeparators (some c) rest).map (c :: ·) else none
  | _, ['_'] => none
  | _, c :: rest => (withoutSeparators (some c) rest).map (c :: ·)
  | _, [] => some []

/-- The double that a text is: a numeral with a fraction or an exponent if it likes, or a word for a number
that is not finite. -/
def double (text : String) : Except NumeralError Binary64 :=
  let plain (c : Char) : Char := ((decimalDigit? c).map fun n => Char.ofNat (48 + n)).getD c
  let read := (withoutSeparators none ((trim isWhite text.toList).map plain)).bind Binary64.ofCharsOrWord?
  match read with
  | some x => .ok x
  | none => .error (.notNumber text)

end RetrievalTelemetry.Text
