/-
Hosts: names and numbers.

A host that looks like four numbers has to be an IPv4 address, one in square brackets an IPv6
address.  A name in ASCII is taken as it is, apart from the case of its letters.  Any other name
is written in ASCII label by label, and each label has to be well formed.
-/
import RetrievalTelemetry.Text.LetterCase
import RetrievalTelemetry.Text.PercentEncoded
import RetrievalTelemetry.Text.Punycode
import RetrievalTelemetry.Text.Search
import RetrievalTelemetry.WebAddress.HostLetter

namespace RetrievalTelemetry.WebAddress

/-! ### Numbers -/

/-- Whether a text is `count` runs of digits, any one character between two of them. -/
def looksNumeric : (count : Nat) → List Char → Bool
  | 0, _ => false
  | 1, cs => !cs.isEmpty && cs.all Char.isDigit
  | count + 2, cs =>
    let digits := cs.takeWhile Char.isDigit
    -- a separator may itself be a digit, so every split is tried
    (List.range digits.length).any fun n => looksNumeric (count + 1) (cs.drop (n + 2))

/-- Whether a text is a number below 256 without zeros in front. -/
def isOctet (cs : List Char) : Bool :=
  !cs.isEmpty && cs.all Char.isDigit && cs.length ≤ 3 && (cs.length = 1 || cs.head? ≠ some '0') &&
    Text.decimalValue cs ≤ 255

def isIpv4 (cs : List Char) : Bool :=
  let parts := Text.splitBy (· = '.') cs
  parts.length = 4 && parts.all isOctet

/-- Whether a text is a group of an IPv6 address. -/
def isGroup (cs : List Char) : Bool :=
  !cs.isEmpty && cs.length ≤ 4 && cs.all fun c => (Text.hexDigit? c).isSome

/-- The groups of an IPv6 address, with an IPv4 address at the end as two of them. -/
def groups? (cs : List Char) : Option (List (List Char)) :=
  let parts := Text.splitBy (· = ':') cs
  match parts.getLast? with
  | some last =>
    if parts.length < 3 then none
    else if last.contains '.' then
      if isIpv4 last then some (parts.dropLast ++ [['0'], ['0']]) else none
    else some parts
  | none => none

/-- Whether such groups make up an address: eight of them, or fewer with one gap. -/
def isGroups (groups : List (List Char)) : Bool :=
  let inner := (groups.drop 1).dropLast
  match inner.countP List.isEmpty with
  | 0 => groups.length = 8 && groups.all isGroup
  | 1 =>
    let before := groups.take (inner.findIdx List.isEmpty + 1)
    let behind := groups.drop (inner.findIdx List.isEmpty + 2)
    -- a gap at an end leaves one more empty group there
    let before := if before = [[]] then [] else before
    let behind := if behind = [[]] then [] else behind
    before.length + behind.length ≤ 7 && (before ++ behind).all isGroup
  | _ => false

/-- Whether a text is an IPv6 address, with or without a zone. -/
def isIpv6 (cs : List Char) : Bool :=
  let zone := (cs.dropWhile (· ≠ '%')).drop 1
  let hasZone := cs.contains '%'
  !cs.contains '/' && !(hasZone && (zone.isEmpty || zone.contains '%')) &&
    (groups? (cs.takeWhile (· ≠ '%'))).any isGroups

/-! ### Names -/

/-- Whether `c` ends a label. -/
def isLabelEnd (c : Char) : Bool :=
  c = '.' || c = '\u3002' || c = '\uFF0E' || c = '\uFF61'

/-- Whether the hyphens of a label stand where they may. -/
def hasGoodHyphens (label : List Char) : Bool :=
  label.head? ≠ some '-' && label.getLast? ≠ some '-' && (label.drop 2).take 2 ≠ ['-', '-']

/-- Whether `c` is a digit of the Arabic script, of the first or of the second kind. -/
def isArabicDigit (second : Bool) (c : Char) : Bool :=
  let least := if second then 0x6F0 else 0x660
  least ≤ c.toNat && c.toNat ≤ least + 9

/-- Whether `c` is a letter of the Japanese scripts. -/
def isJapanese (c : Char) : Bool :=
  (0x3041 ≤ c.toNat && c.toNat ≤ 0x309F) || (0x30A1 ≤ c.toNat && c.toNat ≤ 0x30FA) ||
    (0x4E00 ≤ c.toNat && c.toNat ≤ 0x9FFF)

/-- Whether a character of a label is allowed behind `before` and in front of `behind`. -/
def isAllowed (label before : List Char) (c : Char) (behind : List Char) : Bool :=
  isHostLetter c ||
    (c = '\u00B7' && before.getLast? = some 'l' && behind.head? = some 'l') ||
    (c = '\u30FB' && label.any isJapanese) ||
    (isArabicDigit false c && !(label.any (isArabicDigit true))) ||
    (isArabicDigit true c && !(label.any (isArabicDigit false)))

/-- Whether all characters of a label are allowed; `before` are those that were seen. -/
def allAllowed (label : List Char) : (before : List Char) → List Char → Bool
  | _, [] => true
  | before, c :: rest => isAllowed label before c rest && allAllowed label (before ++ [c]) rest

/-- A label in ASCII, if it is well formed. -/
def asciiLabel? (label : List Char) : Option (List Char) :=
  let hidden := label.any fun c => 0x80 ≤ c.toNat
  let whole := if hidden then ['x', 'n', '-', '-'] ++ Text.Punycode.encode label else label
  let encoded := !hidden && List.isPrefixOf ['x', 'n', '-', '-'] label
  if label.isEmpty || 63 < whole.length || !(encoded || hasGoodHyphens label) ||
      !allAllowed label [] label then none
  else some whole

/-- A name in ASCII, if it is well formed; a dot may end it. -/
def asciiName? (name : List Char) : Option (List Char) :=
  let labels := Text.splitBy isLabelEnd name
  let closed := labels.getLast? = some []
  (((if closed then labels.dropLast else labels).mapM asciiLabel?).map
      fun labels => (List.intercalate ['.'] labels) ++ (if closed then ['.'] else [])).bind fun whole =>
    if (if closed then 254 else 253) < whole.length then none else some whole

/-! ### All together -/

/-- The marks that stand for themselves in a name. -/
def isNameMark (c : Char) : Bool :=
  ['!', '$', '&', '\x27', '(', ')', '*', '+', ',', ';', '=', '\x22', '\x60', '\x7b', '\x7d', '%', '|',
   '\\'].contains c

/-- The host in its normal form; none if it is malformed. -/
def normalHost? (host : List Char) : Option (List Char) :=
  if looksNumeric 4 host then (if isIpv4 host then some host else none)
  else if host.head? = some '[' && host.getLast? = some ']' then
    let inner := (host.drop 1).dropLast
    if isIpv6 inner then some inner else none
  else if host.all fun c => c.toNat < 0x80 then
    some ((Text.percentEncoded isNameMark (host.map Char.toLower)).map Char.toLower)
  else asciiName? (Text.inSmallLetters host)

end RetrievalTelemetry.WebAddress
