/-
Looking for one text inside another.
-/
namespace RetrievalTelemetry.Text

/-- Whether `pattern` stands somewhere in the list, with nothing in between. -/
def occursIn (pattern : List Char) : List Char → Bool
  | [] => pattern.isEmpty
  | c :: cs => pattern.isPrefixOf (c :: cs) || occursIn pattern cs

/-- Whether `pattern` stands somewhere in `text`. -/
def contains (text pattern : String) : Bool := occursIn pattern.toList text.toList

def beginsWith (text head : String) : Bool := head.toList.isPrefixOf text.toList

/-- `text` without the characters `c` at its end. -/
def dropTrailing (c : Char) (text : String) : String :=
  String.ofList (text.toList.reverse.dropWhile (· = c)).reverse

/-- The parts of a list between the elements that satisfy `p`. -/
def splitBy (p : Char → Bool) : List Char → List (List Char)
  | [] => [[]]
  | c :: cs =>
    match splitBy p cs with
    | [] => [[c]]
    | part :: rest => if p c then [] :: part :: rest else (c :: part) :: rest

theorem occursIn_iff_isInfix {pattern cs : List Char} :
    occursIn pattern cs = true ↔ pattern <:+: cs := by
  induction cs with
  | nil => simp [occursIn]
  | cons c cs ih =>
    simp only [occursIn, Bool.or_eq_true, List.isPrefixOf_iff_prefix, ih, List.infix_cons_iff]

end RetrievalTelemetry.Text
