/-
The grammar of duration text, and that the reader accepts exactly this grammar.

`WrittenPart` and `WrittenDuration` say how a duration can be written, and `text` writes it.  A
number ends where its unit begins, because no unit begins with a digit or a point.  Behind a part comes
the end or the number of the next part, so an `s` behind an `m` always belongs to the unit.  That is
why a text is written in one way only, and why a reader that never goes back finds that way.

A part stands for its number times the length of its unit, where the number is the one that its
digits denote.  What is read is the sum of all parts, each of them once.  The sum is a number, perhaps
an infinite one, so a text of the grammar either denotes a span within the bounds or is out of range.
-/
import Mathlib.Data.Nat.Digits.Defs
import RetrievalTelemetry.Proofs.Binary64.Decimal
import RetrievalTelemetry.Proofs.Intake.Record
import RetrievalTelemetry.Proofs.Time.Nearest
import RetrievalTelemetry.Proofs.Time.Search

namespace RetrievalTelemetry

/-! ### What is written -/

/-- The ways of writing a unit. -/
def TimeUnit.spellings : TimeUnit → List (List Char)
  | nanosecond => [['n', 's']]
  | microsecond => [['u', 's'], ['\u00B5', 's'], ['\u03BC', 's']]
  | millisecond => [['m', 's']]
  | second => [['s']]
  | minute => [['m']]
  | hour => [['h']]

/-- The length of a unit in nanoseconds. -/
def TimeUnit.length : TimeUnit → Nat
  | nanosecond => 1
  | microsecond => 10 ^ 3
  | millisecond => 10 ^ 6
  | second => 10 ^ 9
  | minute => 60 * 10 ^ 9
  | hour => 60 * (60 * 10 ^ 9)

/-- A part of a duration as it is written: a number, with a point if it has a fraction, and a
unit. -/
@[ext]
structure WrittenPart where
  part : DurationPart
  hasPoint : Bool
  spelling : List Char
  digits : ∀ c ∈ part.whole ++ part.fraction, Text.isDecimalDigit c = true
  hasDigit : part.whole ++ part.fraction ≠ []
  pointed : part.fraction ≠ [] → hasPoint = true
  spelled : spelling ∈ part.unit.spellings

namespace WrittenPart

def point (w : WrittenPart) : List Char := if w.hasPoint then ['.'] else []

def text (w : WrittenPart) : List Char :=
  w.part.whole ++ (w.point ++ (w.part.fraction ++ w.spelling))

/-- The digits on both sides of the point as numbers, the last one first. -/
def digitValues (w : WrittenPart) : List Nat :=
  (w.part.whole ++ w.part.fraction).reverse.map fun c => (Text.decimalDigit? c).getD 0

/-- The number that is written. -/
def number (w : WrittenPart) : Rat :=
  (Nat.ofDigits 10 w.digitValues : Nat) / 10 ^ w.part.fraction.length

/-- The nanoseconds of the part: its number times the length of its unit, as doubles. -/
def nanoseconds (w : WrittenPart) : Binary64 :=
  (Binary64.ofRat w.number).mul (Binary64.ofInt w.part.unit.length)

end WrittenPart

/-- A duration as it is written: a sign, true for a minus, and parts; the lone zero has none. -/
@[ext]
structure WrittenDuration where
  sign : Option Bool
  parts : List WrittenPart

namespace WrittenDuration

def signText : Option Bool → List Char
  | none => []
  | some false => ['+']
  | some true => ['-']

def body (w : WrittenDuration) : List Char :=
  if w.parts = [] then ['0'] else w.parts.flatMap WrittenPart.text

def text (w : WrittenDuration) : List Char := signText w.sign ++ w.body

/-- The nanoseconds: those of the parts, added up from the left, with the sign. -/
def nanoseconds (w : WrittenDuration) : Binary64 :=
  let sum := (w.parts.map WrittenPart.nanoseconds).foldl Binary64.add (Binary64.zero false)
  if w.sign = some true then sum.neg else sum

end WrittenDuration

/-! ### What a part stands for -/

/-- The number that digits denote, by their places. -/
theorem Text.decimalValue_eq (cs : List Char) :
    decimalValue cs = Nat.ofDigits 10 (cs.reverse.map fun c => (decimalDigit? c).getD 0) := by
  rw [Nat.ofDigits_eq_foldr, List.map_reverse, List.foldr_reverse, List.foldl_map]
  refine List.foldl_ext _ _ _ fun n c _ => ?_
  exact Nat.add_comm _ _

theorem TimeUnit.nanoseconds_eq (u : TimeUnit) : u.nanoseconds = u.length := by
  cases u <;> rfl

theorem WrittenPart.number_nonneg (w : WrittenPart) : 0 ≤ w.number := by
  unfold number
  positivity

/-- A part is read as what it stands for. -/
theorem WrittenPart.nanoseconds_part (w : WrittenPart) : w.part.nanoseconds = w.nanoseconds := by
  have hnumber : w.part.decimal.toRat = w.number := by
    unfold Decimal.toRat DurationPart.decimal number digitValues
    dsimp only
    rw [Text.decimalValue_eq, zpow_neg, zpow_natCast, div_eq_mul_inv]
  rw [DurationPart.nanoseconds, Binary64.ofDecimal_eq_ofRat, hnumber, w.part.unit.nanoseconds_eq]
  rfl

/-- A text without the blanks around it. -/
def Duration.core (text : String) : List Char := Text.trim Text.isBlank text.toList

namespace Duration

/-! ### Numbers and units -/

/-- Whether the number in front ends where `cs` begins. -/
def EndsNumber (cs : List Char) : Prop :=
  ∀ c ∈ cs.head?, Text.isDecimalDigit c = false ∧ c ≠ '.'

theorem spanDigits_append {ds rest : List Char} (hds : ∀ c ∈ ds, Text.isDecimalDigit c = true)
    (hrest : ∀ c ∈ rest.head?, Text.isDecimalDigit c = false) :
    spanDigits (ds ++ rest) = (ds, rest) := by
  have hstop : rest.takeWhile Text.isDecimalDigit = [] ∧
      rest.dropWhile Text.isDecimalDigit = rest := by
    cases rest with
    | nil => exact ⟨rfl, rfl⟩
    | cons c rest =>
        have hc : ¬Text.isDecimalDigit c = true := by simp [hrest c rfl]
        exact ⟨List.takeWhile_cons_of_neg hc, List.dropWhile_cons_of_neg hc⟩
  unfold spanDigits
  rw [List.takeWhile_append_of_pos hds, List.dropWhile_append_of_pos hds, hstop.1, hstop.2,
    List.append_nil]

theorem endsNumber_spelling {u : TimeUnit} {spelling : List Char} (h : spelling ∈ u.spellings)
    (rest : List Char) : EndsNumber (spelling ++ rest) := by
  cases u <;> simp only [TimeUnit.spellings, List.mem_cons, List.not_mem_nil, or_false] at h
  case microsecond =>
    rcases h with rfl | rfl | rfl <;> · rintro c ⟨⟩; decide
  all_goals
    subst h
    rintro c ⟨⟩
    decide

theorem takeUnit_spelling {u : TimeUnit} {spelling : List Char} (h : spelling ∈ u.spellings)
    {rest : List Char} (hrest : rest.head? ≠ some 's') :
    takeUnit (spelling ++ rest) = some (u, rest) := by
  cases u <;> simp only [TimeUnit.spellings, List.mem_cons, List.not_mem_nil, or_false] at h
  case microsecond => rcases h with rfl | rfl | rfl <;> rfl
  case minute =>
    subst h
    cases rest with
    | nil => rfl
    | cons c rest =>
      have hc : c ≠ 's' := fun hc => hrest (by rw [hc]; rfl)
      simp [takeUnit, hc]
  all_goals
    subst h
    rfl

theorem exists_spelling_of_takeUnit {cs rest : List Char} {u : TimeUnit}
    (h : takeUnit cs = some (u, rest)) : ∃ spelling ∈ u.spellings, cs = spelling ++ rest := by
  unfold takeUnit at h
  split at h <;> cases h
  all_goals simp [TimeUnit.spellings]

/-- A number is read as far as it goes. -/
theorem takeNumber_append (w : WrittenPart) {rest : List Char} (hrest : EndsNumber rest) :
    takeNumber (w.part.whole ++ (w.point ++ (w.part.fraction ++ rest)))
      = some ((w.part.whole, w.part.fraction), rest) := by
  obtain ⟨⟨whole, fraction, unit⟩, hasPoint, spelling, digits, hasDigit, pointed, -⟩ := w
  have hwhole : ∀ c ∈ whole, Text.isDecimalDigit c = true :=
    fun c hc => digits c (List.mem_append_left _ hc)
  have hfraction : ∀ c ∈ fraction, Text.isDecimalDigit c = true :=
    fun c hc => digits c (List.mem_append_right _ hc)
  cases hasPoint with
  | true =>
      have hfront : spanDigits (whole ++ (['.'] ++ (fraction ++ rest)))
          = (whole, '.' :: (fraction ++ rest)) :=
        spanDigits_append hwhole (by rintro c ⟨⟩; exact not_isDecimalDigit_point)
      have hbehind : spanDigits (fraction ++ rest) = (fraction, rest) :=
        spanDigits_append hfraction fun c hc => (hrest c hc).1
      simp only [WrittenPart.point, if_true]
      rw [takeNumber_of_point hfront, hbehind, if_neg hasDigit]
  | false =>
      obtain rfl : fraction = [] := by
        by_contra hne
        cases pointed hne
      have hfront : spanDigits (whole ++ ([] ++ ([] ++ rest))) = (whole, rest) :=
        spanDigits_append hwhole fun c hc => (hrest c hc).1
      have hpoint : rest.head? ≠ some '.' := fun hpoint => (hrest '.' hpoint).2 rfl
      rw [List.append_nil] at hasDigit
      simp only [WrittenPart.point, Bool.false_eq_true, if_false]
      rw [takeNumber_of_ne_point hfront hpoint, if_neg hasDigit]

theorem exists_point_of_takeNumber {cs rest whole fraction : List Char}
    (h : takeNumber cs = some ((whole, fraction), rest)) :
    ∃ hasPoint : Bool, (fraction ≠ [] → hasPoint = true) ∧ whole ++ fraction ≠ [] ∧
      (∀ c ∈ whole ++ fraction, Text.isDecimalDigit c = true) ∧
      cs = whole ++ ((if hasPoint then ['.'] else []) ++ (fraction ++ rest)) := by
  cases hspan : spanDigits cs with
  | mk digits behind =>
    obtain ⟨rfl, hwhole⟩ := eq_append_of_spanDigits hspan
    by_cases hpoint : behind.head? = some '.'
    · obtain ⟨behind, rfl⟩ := List.head?_eq_some_iff.mp hpoint
      obtain ⟨hbehind, hfraction⟩ := eq_append_of_spanDigits (rfl : spanDigits behind = _)
      rw [takeNumber_of_point hspan] at h
      split at h
      · cases h
      · rename_i hne
        cases h
        refine ⟨true, fun _ => rfl, hne, ?_, ?_⟩
        · intro c hc
          exact (List.mem_append.mp hc).elim (hwhole c) (hfraction c)
        · conv_lhs => rw [hbehind]
          rfl
    · rw [takeNumber_of_ne_point hspan hpoint] at h
      split at h
      · cases h
      · rename_i hne
        cases h
        rw [List.append_nil]
        exact ⟨false, fun hfraction => absurd rfl hfraction, hne, hwhole, rfl⟩

/-! ### Parts -/

theorem takePart_text (w : WrittenPart) {rest : List Char} (hrest : rest.head? ≠ some 's') :
    takePart (w.text ++ rest) = some (w.part, rest) := by
  have hnumber : takeNumber (w.text ++ rest)
      = some ((w.part.whole, w.part.fraction), w.spelling ++ rest) := by
    unfold WrittenPart.text
    simp only [List.append_assoc]
    exact takeNumber_append w (endsNumber_spelling w.spelled rest)
  unfold takePart withUnit
  rw [hnumber]
  dsimp only
  rw [takeUnit_spelling w.spelled hrest]
  rfl

theorem exists_text_of_takePart {cs rest : List Char} {p : DurationPart}
    (h : takePart cs = some (p, rest)) : ∃ w : WrittenPart, w.part = p ∧ cs = w.text ++ rest := by
  unfold takePart at h
  split at h
  · cases h
  · rename_i whole fraction behind hnumber
    obtain ⟨⟨unit, rest'⟩, hunit, heq⟩ := Option.map_eq_some_iff.mp h
    cases heq
    obtain ⟨hasPoint, pointed, hasDigit, digits, rfl⟩ := exists_point_of_takeNumber hnumber
    obtain ⟨spelling, spelled, rfl⟩ := exists_spelling_of_takeUnit hunit
    refine ⟨⟨⟨whole, fraction, unit⟩, hasPoint, spelling, digits, hasDigit, pointed, spelled⟩,
      rfl, ?_⟩
    simp only [WrittenPart.text, WrittenPart.point, List.append_assoc]

end Duration

namespace WrittenPart

/-- A part begins with a digit or a point. -/
theorem exists_head (w : WrittenPart) :
    ∃ c rest, w.text = c :: rest ∧ (Text.isDecimalDigit c = true ∨ c = '.') := by
  obtain ⟨⟨whole, fraction, unit⟩, hasPoint, spelling, digits, hasDigit, pointed, -⟩ := w
  cases whole with
  | cons c whole => exact ⟨c, _, rfl, Or.inl (digits c (List.mem_cons_self ..))⟩
  | nil =>
      obtain rfl : hasPoint = true := pointed hasDigit
      exact ⟨'.', _, rfl, Or.inr rfl⟩

/-- Parts do not begin with a character that is neither a digit nor a point. -/
theorem head?_flatMap_text (ws : List WrittenPart) {c : Char}
    (hdigit : Text.isDecimalDigit c = false) (hpoint : c ≠ '.') :
    (ws.flatMap text).head? ≠ some c := by
  cases ws with
  | nil => nofun
  | cons w ws =>
      obtain ⟨d, rest, htext, hd⟩ := w.exists_head
      rw [List.flatMap_cons, htext]
      rintro ⟨⟩
      rcases hd with hd | rfl
      · rw [hdigit] at hd
        cases hd
      · exact hpoint rfl

theorem head?_flatMap_text_ne_s (ws : List WrittenPart) : (ws.flatMap text).head? ≠ some 's' :=
  head?_flatMap_text ws (by decide) (by decide)

/-- A point in one of two texts of a part is also in the other, because no unit begins with one. -/
theorem hasPoint_of_text_eq {v w : WrittenPart} (hpart : v.part = w.part) (htext : v.text = w.text)
    (hpoint : v.hasPoint = true) : w.hasPoint = true := by
  by_contra hnone
  have hfraction : w.part.fraction = [] := by
    by_contra hne
    exact hnone (w.pointed hne)
  unfold text point at htext
  rw [hpart, List.append_cancel_left_eq, if_pos hpoint, if_neg hnone, hfraction] at htext
  have hends := Duration.endsNumber_spelling w.spelled []
  rw [List.append_nil] at hends
  refine (hends '.' ?_).2 rfl
  rw [← List.nil_append w.spelling, ← List.nil_append ([] ++ w.spelling), ← htext]
  rfl

theorem eq_of_text_eq {v w : WrittenPart} (hpart : v.part = w.part) (htext : v.text = w.text) :
    v = w := by
  have hpoint : v.hasPoint = w.hasPoint :=
    Bool.eq_iff_iff.mpr
      ⟨hasPoint_of_text_eq hpart htext, hasPoint_of_text_eq hpart.symm htext.symm⟩
  have hspelling : v.spelling = w.spelling := by
    unfold text point at htext
    rwa [hpart, hpoint, List.append_cancel_left_eq, List.append_cancel_left_eq,
      List.append_cancel_left_eq] at htext
  exact WrittenPart.ext hpart hpoint hspelling

/-- Parts in a row can be told apart. -/
theorem flatMap_text_injective :
    ∀ {vs ws : List WrittenPart}, vs.flatMap text = ws.flatMap text → vs = ws := by
  intro vs
  induction vs with
  | nil =>
      intro ws h
      cases ws with
      | nil => rfl
      | cons w ws =>
          obtain ⟨c, rest, htext, -⟩ := w.exists_head
          rw [List.flatMap_cons, htext] at h
          cases h
  | cons v vs ih =>
      intro ws h
      cases ws with
      | nil =>
          obtain ⟨c, rest, htext, -⟩ := v.exists_head
          rw [List.flatMap_cons, htext] at h
          cases h
      | cons w ws =>
          rw [List.flatMap_cons, List.flatMap_cons] at h
          have hread := Duration.takePart_text v (head?_flatMap_text_ne_s vs)
          rw [h, Duration.takePart_text w (head?_flatMap_text_ne_s ws)] at hread
          obtain ⟨hpart, hrest⟩ := Prod.mk.inj (Option.some.inj hread)
          rw [← hrest, List.append_cancel_right_eq] at h
          rw [eq_of_text_eq hpart.symm h, ih hrest.symm]

end WrittenPart

namespace Duration

/-- All parts are found. -/
theorem scan_flatMap_text (ws : List WrittenPart) :
    ∀ {fuel : Nat}, (ws.flatMap WrittenPart.text).length ≤ fuel →
      scan fuel (ws.flatMap WrittenPart.text) = (ws.map WrittenPart.part, []) := by
  induction ws with
  | nil =>
      intro fuel _
      cases fuel <;> rfl
  | cons w ws ih =>
      intro fuel hfuel
      have hread := takePart_text w (WrittenPart.head?_flatMap_text_ne_s ws)
      obtain ⟨c, rest, htext, -⟩ := w.exists_head
      rw [List.flatMap_cons, htext, List.cons_append, List.length_cons, List.length_append] at hfuel
      cases fuel with
      | zero => cases hfuel
      | succ fuel =>
          have hfuel' : (ws.flatMap WrittenPart.text).length ≤ fuel := by omega
          rw [List.flatMap_cons, scan_of_takePart hread, ih hfuel']
          rfl

/-- Where nothing is left over, there are only parts. -/
theorem exists_texts_of_scan : ∀ {fuel : Nat} {cs : List Char} {ps : List DurationPart},
    scan fuel cs = (ps, []) →
      ∃ ws : List WrittenPart, ws.map WrittenPart.part = ps ∧ cs = ws.flatMap WrittenPart.text := by
  intro fuel
  induction fuel with
  | zero =>
    intro cs ps h
    cases h
    exact ⟨[], rfl, rfl⟩
  | succ fuel ih =>
    intro cs ps h
    cases hread : takePart cs with
    | none =>
        rw [scan_of_takePart_eq_none hread] at h
        cases h
        exact ⟨[], rfl, rfl⟩
    | some read =>
        obtain ⟨part, rest⟩ := read
        rw [scan_of_takePart hread] at h
        obtain ⟨rfl, hleft⟩ := Prod.mk.inj h
        obtain ⟨w, rfl, rfl⟩ := exists_text_of_takePart hread
        obtain ⟨ws, hparts, htext⟩ := ih (Prod.ext rfl hleft)
        refine ⟨w :: ws, ?_, ?_⟩
        · rw [List.map_cons, hparts]
        · rw [List.flatMap_cons, ← htext]

end Duration

/-! ### Durations -/

namespace WrittenDuration

/-- What stands behind the sign begins with a digit or a point. -/
theorem head?_body (w : WrittenDuration) {c : Char} (hdigit : Text.isDecimalDigit c = false)
    (hpoint : c ≠ '.') : w.body.head? ≠ some c := by
  unfold body
  split
  · rintro ⟨⟩
    revert hdigit
    decide
  · exact WrittenPart.head?_flatMap_text w.parts hdigit hpoint

theorem splitSign_text (w : WrittenDuration) : Text.splitSign w.text = (w.sign, w.body) := by
  obtain ⟨sign, parts⟩ := w
  cases sign with
  | some negative => cases negative <;> rfl
  | none =>
      show Text.splitSign (body ⟨none, parts⟩) = (none, body ⟨none, parts⟩)
      have hplus := head?_body ⟨none, parts⟩ (c := '+') (by decide) (by decide)
      have hminus := head?_body ⟨none, parts⟩ (c := '-') (by decide) (by decide)
      unfold Text.splitSign
      split
      · rename_i heq
        rw [heq] at hplus
        exact absurd rfl hplus
      · rename_i heq
        rw [heq] at hminus
        exact absurd rfl hminus
      · rfl

theorem eq_signText_append_of_splitSign {cs rest : List Char} {sign : Option Bool}
    (h : Text.splitSign cs = (sign, rest)) : cs = signText sign ++ rest := by
  unfold Text.splitSign at h
  split at h <;> · cases h; rfl

theorem body_ne_nil (w : WrittenDuration) : w.body ≠ [] := by
  unfold body
  split
  · nofun
  · rename_i hparts
    obtain ⟨p, ps, hcons⟩ := List.exists_cons_of_ne_nil hparts
    obtain ⟨c, rest, htext, -⟩ := p.exists_head
    rw [hcons, List.flatMap_cons, htext]
    nofun

/-- A lone zero has no unit, so it is no part. -/
theorem flatMap_text_ne_zero (w : WrittenPart) (ws : List WrittenPart) :
    (w :: ws).flatMap WrittenPart.text ≠ ['0'] := by
  intro h
  have hread := Duration.takePart_text w (WrittenPart.head?_flatMap_text_ne_s ws)
  rw [← List.flatMap_cons, h] at hread
  revert hread
  rw [show Duration.takePart ['0'] = none by decide]
  nofun

theorem body_eq_zero_iff (w : WrittenDuration) : w.body = ['0'] ↔ w.parts = [] := by
  unfold body
  constructor
  · intro h
    by_contra hne
    rw [if_neg hne] at h
    obtain ⟨p, ps, hparts⟩ := List.exists_cons_of_ne_nil hne
    rw [hparts] at h
    exact flatMap_text_ne_zero p ps h
  · exact fun h => if_pos h

theorem body_of_ne_nil {w : WrittenDuration} (h : w.parts ≠ []) :
    w.body = w.parts.flatMap WrittenPart.text := if_neg h

theorem parts_eq_of_body_eq {v w : WrittenDuration} (h : v.body = w.body) : v.parts = w.parts := by
  by_cases hv : v.parts = []
  · rw [hv, w.body_eq_zero_iff.mp (by rw [← h, v.body_eq_zero_iff.mpr hv])]
  · have hw : w.parts ≠ [] := by
      intro hw
      exact hv (v.body_eq_zero_iff.mp (by rw [h, w.body_eq_zero_iff.mpr hw]))
    rw [body_of_ne_nil hv, body_of_ne_nil hw] at h
    exact WrittenPart.flatMap_text_injective h

theorem text_injective {v w : WrittenDuration} (h : v.text = w.text) : v = w := by
  have hsplit := v.splitSign_text
  rw [h, w.splitSign_text] at hsplit
  obtain ⟨hsign, hbody⟩ := Prod.mk.inj hsplit
  exact WrittenDuration.ext hsign.symm (parts_eq_of_body_eq hbody.symm)

end WrittenDuration

namespace Duration

/-- A text of the grammar is read as its nanoseconds. -/
theorem ofText_text {text : String} {w : WrittenDuration} (h : w.text = core text) :
    ofText text =
      match ofNanoseconds? (.double w.nanoseconds) with
      | none => .error (.textOutOfRange text)
      | some d => .ok d := by
  unfold ofText
  rw [show Text.trim Text.isBlank text.toList = w.text from h.symm, w.splitSign_text]
  dsimp only
  by_cases hparts : w.parts = []
  · rw [if_pos (w.body_eq_zero_iff.mpr hparts)]
    have hzero : w.nanoseconds.toRat? = some ((0 : Int) : Rat) := by
      unfold WrittenDuration.nanoseconds
      rw [hparts]
      dsimp only [List.map_nil, List.foldl_nil]
      split <;> rw [Int.cast_zero] <;> exact Binary64.toRat?_zero _
    rw [ofNanoseconds?_double (by decide) hzero, nearest_zero]
  · rw [if_neg (mt w.body_eq_zero_iff.mp hparts), if_neg (w.body_ne_nil),
      WrittenDuration.body_of_ne_nil hparts, scan_flatMap_text w.parts (Nat.le_refl _)]
    have hsum : totalNanoseconds (w.parts.map WrittenPart.part)
        = (w.parts.map WrittenPart.nanoseconds).foldl Binary64.add (Binary64.zero false) := by
      unfold totalNanoseconds
      rw [List.foldl_map, List.foldl_map]
      exact List.foldl_ext _ _ _ fun sum p _ => congrArg sum.add p.nanoseconds_part
    dsimp only
    rw [if_pos rfl, hsum]
    rfl

/-- Only texts of the grammar are read. -/
theorem exists_text_of_ofText {text : String} (h : ofText text ≠ .error (.malformed text)) :
    ∃ w : WrittenDuration, w.text = core text := by
  cases hsplit : Text.splitSign (core text) with
  | mk sign body =>
    have hwhole := WrittenDuration.eq_signText_append_of_splitSign hsplit
    unfold ofText at h
    rw [show Text.splitSign (Text.trim Text.isBlank text.toList) = (sign, body) from hsplit] at h
    dsimp only at h
    split at h
    · rename_i hzero
      exact ⟨⟨sign, []⟩, by rw [hwhole, hzero]; rfl⟩
    · split at h
      · exact absurd rfl h
      · rename_i hne
        split at h
        · rename_i hleft
          obtain ⟨ws, -, htext⟩ := exists_texts_of_scan (Prod.ext rfl hleft)
          have hws : ws ≠ [] := by
            rintro rfl
            exact hne htext
          refine ⟨⟨sign, ws⟩, ?_⟩
          rw [hwhole, htext, ← @WrittenDuration.body_of_ne_nil ⟨sign, ws⟩ hws]
          rfl
        · exact absurd rfl h

end Duration

/-! ### Sums that are numbers -/

namespace Binary64

/-- Neither a NaN nor negative; perhaps infinite. -/
structure IsMagnitude (x : Binary64) : Prop where
  isNaN : x.isNaN = false
  isNegative : x.isNegative = false

theorem isNaN_neg (x : Binary64) : x.neg.isNaN = x.isNaN := by
  cases x <;> rfl

theorem isMagnitude_ofRatio (num : Nat) {den : Nat} (hden : 0 < den) :
    (ofRatio false num den).IsMagnitude := by
  rcases ofRatio_cases false num hden with hround | ⟨m, e, hround, -⟩ <;> rw [hround] <;>
    exact ⟨rfl, rfl⟩

theorem isMagnitude_ofRat {q : Rat} (hq : 0 ≤ q) : (ofRat q).IsMagnitude := by
  rw [ofRat, decide_eq_false (not_lt.mpr hq)]
  exact isMagnitude_ofRatio _ (Rat.den_pos _)

theorem IsMagnitude.mul_nat {x y : Binary64} {k : Nat} (hx : x.IsMagnitude) (hy : y.IsNat k)
    (hk : k ≠ 0) : (x.mul y).IsMagnitude := by
  obtain ⟨n, f, rfl, hn⟩ := hy
  have hn0 : n ≠ 0 := by
    rintro rfl
    rw [scaled_eq, Nat.cast_zero, zero_mul] at hn
    exact hk (by exact_mod_cast hn.symm)
  cases x with
  | nan => cases hx.isNaN
  | infinity negative =>
      obtain rfl : negative = false := hx.isNegative
      rw [mul, if_neg hn0]
      exact ⟨rfl, rfl⟩
  | finite negative m e =>
      obtain rfl : negative = false := hx.isNegative
      exact isMagnitude_ofRatio _ (Rat.den_pos _)

theorem IsMagnitude.add {x y : Binary64} (hx : x.IsMagnitude) (hy : y.IsMagnitude) :
    (x.add y).IsMagnitude := by
  cases x with
  | nan => cases hx.isNaN
  | infinity a =>
      obtain rfl : a = false := hx.isNegative
      cases y with
      | nan => cases hy.isNaN
      | infinity b =>
          obtain rfl : b = false := hy.isNegative
          exact ⟨rfl, rfl⟩
      | finite b n f => exact ⟨rfl, rfl⟩
  | finite a m e =>
      obtain rfl : a = false := hx.isNegative
      cases y with
      | nan => cases hy.isNaN
      | infinity b =>
          obtain rfl : b = false := hy.isNegative
          exact ⟨rfl, rfl⟩
      | finite b n f =>
          obtain rfl : b = false := hy.isNegative
          simp only [Binary64.add, toRat]
          split
          · exact ⟨rfl, rfl⟩
          · exact isMagnitude_ofRat (add_nonneg (scaled_nonneg m e) (scaled_nonneg n f))

end Binary64

theorem WrittenPart.isMagnitude_nanoseconds (w : WrittenPart) : w.nanoseconds.IsMagnitude :=
  (Binary64.isMagnitude_ofRat w.number_nonneg).mul_nat
    (Binary64.isNat_ofInt (by cases w.part.unit <;> decide)) (by cases w.part.unit <;> decide)

/-- The nanoseconds of a duration are a number, perhaps an infinite one. -/
theorem WrittenDuration.isNaN_nanoseconds (w : WrittenDuration) : w.nanoseconds.isNaN = false := by
  have hsum : ((w.parts.map WrittenPart.nanoseconds).foldl Binary64.add
      (Binary64.zero false)).IsMagnitude := by
    refine List.foldlRecOn _ _ ⟨rfl, rfl⟩ ?_
    intro sum hsum x hx
    obtain ⟨p, -, rfl⟩ := List.mem_map.mp hx
    exact hsum.add p.isMagnitude_nanoseconds
  unfold nanoseconds
  dsimp only
  split
  · rw [Binary64.isNaN_neg]
    exact hsum.isNaN
  · exact hsum.isNaN

namespace Duration

/-- A text is malformed exactly if, without the blanks around it, it is not of the grammar.  A text of
the grammar is written in one way only, its parts add up to a number, and it denotes the span of that
many nanoseconds, unless that is out of range. -/
theorem ofText_by_grammar (text : String) :
    (ofText text = .error (.malformed text) ↔ ∀ w : WrittenDuration, w.text ≠ core text) ∧
      (∀ w : WrittenDuration, w.text = core text →
        (∀ v : WrittenDuration, v.text = core text → v = w) ∧
          w.nanoseconds.isNaN = false ∧
          ((∃ d, ofText text = .ok d ∧ d.inRange = true ∧
              ofNanoseconds? (.double w.nanoseconds) = some d) ∨
            (ofText text = .error (.textOutOfRange text) ∧
              ofNanoseconds? (.double w.nanoseconds) = none))) ∧
      (DurationError.malformed text).message = "invalid duration " ++ Text.quoted text ∧
      (DurationError.textOutOfRange text).message
        = "duration out of range: " ++ Text.quoted text := by
  refine ⟨⟨?_, ?_⟩, ?_, rfl, rfl⟩
  · intro h w hw
    rw [ofText_text hw] at h
    split at h <;> cases h
  · intro h
    by_contra hread
    obtain ⟨w, hw⟩ := exists_text_of_ofText hread
    exact h w hw
  · intro w hw
    refine ⟨fun v hv => WrittenDuration.text_injective (hv.trans hw.symm), w.isNaN_nanoseconds, ?_⟩
    rw [ofText_text hw]
    cases hspan : ofNanoseconds? (.double w.nanoseconds) with
    | none => exact Or.inr ⟨rfl, rfl⟩
    | some d => exact Or.inl ⟨d, rfl, inRange_of_ofNanoseconds? hspan, rfl⟩

/-- An `m` in front of an `s` is part of milliseconds, also where a number without digits behind its
point precedes: two milliseconds and half a minute, with a minus. -/
theorem ofText_by_grammar_milliseconds :
    ∃ w : WrittenDuration, w.text = core " -2.ms.5m " ∧
      (w.parts.map fun p => (p.number, p.part.unit)) = [(2, .millisecond), (1 / 2, .minute)] ∧
      w.nanoseconds.toRat? = some (-30002000000) ∧
      ofText " -2.ms.5m " = .ok ⟨-30002000⟩ ∧
      ∀ v : WrittenDuration, v.text = core " -2.ms.5m " → v = w := by
  let w : WrittenDuration := ⟨some true,
    [⟨⟨['2'], [], .millisecond⟩, true, ['m', 's'], List.all_eq_true.mp rfl, by decide, by decide,
        by decide⟩,
      ⟨⟨[], ['5'], .minute⟩, true, ['m'], List.all_eq_true.mp rfl, by decide, by decide,
        by decide⟩]⟩
  have hw : w.text = core " -2.ms.5m " := by decide
  obtain ⟨hunique, -, hread⟩ := (ofText_by_grammar " -2.ms.5m ").2.1 w hw
  have hspan : ofNanoseconds? (.double w.nanoseconds) = some ⟨-30002000⟩ := by decide +kernel
  refine ⟨w, hw, by decide +kernel, by decide +kernel, ?_, hunique⟩
  rcases hread with ⟨d, hd, -, hvalue⟩ | ⟨-, hnone⟩
  · rw [hspan] at hvalue
    rw [hd, ← Option.some.inj hvalue]
  · rw [hspan] at hnone
    cases hnone

end Duration

end RetrievalTelemetry
