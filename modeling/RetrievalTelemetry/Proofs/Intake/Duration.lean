/-
Durations as posted: the text of whole numbers with units, a whole number of nanoseconds and the
double of it are read alike.
-/
import RetrievalTelemetry.Intake.Field
import RetrievalTelemetry.Proofs.Time.Grammar

namespace RetrievalTelemetry

/-- A whole number of one unit, as it is written in the text of a duration. -/
structure WholePart where
  count : Nat
  unit : TimeUnit
  spelling : List Char
  spelled : spelling ∈ unit.spellings

namespace Text

theorem decimalDigit?_of_isDigit {c : Char} (h : c.isDigit = true) :
    decimalDigit? c = some (c.toNat - '0'.toNat) := by
  have hrange : 0x30 ≤ c.toNat ∧ c.toNat ≤ 0x30 + 9 := by
    simp only [Char.isDigit, Bool.and_eq_true, decide_eq_true_eq, ge_iff_le,
      UInt32.le_iff_toNat_le] at h
    exact h
  have hfind : zeroDigits.find? (fun z => z ≤ c.toNat && c.toNat ≤ z + 9) = some 0x30 :=
    List.find?_cons_of_pos (by simpa using hrange)
  unfold decimalDigit?
  rw [hfind]
  rfl

theorem toList_toString (n : Nat) : (toString n).toList = Nat.toDigits 10 n := by
  rw [Nat.toString_eq_ofList_toDigits, String.toList_ofList]

theorem isDigit_of_mem_toString {n : Nat} {c : Char} (h : c ∈ (toString n).toList) :
    c.isDigit = true := by
  rw [toList_toString] at h
  exact Nat.isDigit_of_mem_toDigits (by decide) (by decide) h

/-- The digits of a natural number denote it. -/
theorem decimalValue_toString (n : Nat) : decimalValue (toString n).toList = n := by
  calc decimalValue (toString n).toList
      = Nat.ofDigitChars 10 (toString n).toList 0 := by
        refine List.foldl_ext _ _ _ fun sum c hc => ?_
        rw [decimalDigit?_of_isDigit (isDigit_of_mem_toString hc)]
        rfl
    _ = n := by rw [toList_toString, Nat.ofDigitChars_ten_toDigits]

/-- The digits of all scripts are apart from the blanks. -/
theorem isBlank_of_isDecimalDigit {c : Char} (h : isDecimalDigit c = true) : isBlank c = false := by
  have happart : ∀ z ∈ zeroDigits, ∀ r ∈ (0x1C, 0x1F) :: whiteRanges, r.2 < z ∨ z + 9 < r.1 := by
    decide
  obtain ⟨z, hz, hdigit⟩ : ∃ z ∈ zeroDigits, z ≤ c.toNat ∧ c.toNat ≤ z + 9 := by
    unfold isDecimalDigit decimalDigit? at h
    rw [Option.isSome_map, List.find?_isSome] at h
    obtain ⟨z, hz, hrange⟩ := h
    exact ⟨z, hz, by simpa using hrange⟩
  have houtside : ∀ r ∈ (0x1C, 0x1F) :: whiteRanges, ¬(r.1 ≤ c.toNat ∧ c.toNat ≤ r.2) := by
    intro r hr
    have := happart z hz r hr
    omega
  have hwhite : isWhite c = false := by
    unfold isWhite
    rw [List.any_eq_false]
    intro r hr
    simpa using houtside r (List.mem_cons_of_mem _ hr)
  unfold isBlank
  rw [hwhite, Bool.false_or]
  simpa using houtside _ (List.mem_cons_self ..)

/-- A text without blanks stays as it is. -/
theorem trim_eq_self {p : Char → Bool} {cs : List Char} (h : ∀ c ∈ cs, p c = false) :
    trim p cs = cs := by
  have hdrop : ∀ {ds : List Char}, (∀ c ∈ ds, p c = false) → ds.dropWhile p = ds := by
    intro ds hds
    cases ds with
    | nil => rfl
    | cons d ds => exact List.dropWhile_cons_of_neg (by simp [hds d (List.mem_cons_self ..)])
  unfold trim
  rw [hdrop h, hdrop fun c hc => h c (List.mem_reverse.mp hc), List.reverse_reverse]

end Text

theorem WrittenPart.isBlank_of_mem_text {w : WrittenPart} {c : Char} (hc : c ∈ w.text) :
    Text.isBlank c = false := by
  have hspelling : ∀ c ∈ w.spelling, Text.isBlank c = false := by
    have hall : ∀ spelling ∈ w.part.unit.spellings, spelling.any Text.isBlank = false := by
      cases w.part.unit <;> decide
    simpa using hall w.spelling w.spelled
  unfold text point at hc
  simp only [List.mem_append] at hc
  rcases hc with hc | hc | hc | hc
  · exact Text.isBlank_of_isDecimalDigit (w.digits c (List.mem_append_left _ hc))
  · split at hc
    · rw [List.mem_singleton.mp hc]
      decide
    · cases hc
  · exact Text.isBlank_of_isDecimalDigit (w.digits c (List.mem_append_right _ hc))
  · exact hspelling c hc

theorem WrittenDuration.isBlank_of_mem_text (w : WrittenDuration) :
    ∀ c ∈ w.text, Text.isBlank c = false := by
  intro c hc
  rcases List.mem_append.mp hc with hc | hc
  · have hsign : ∀ sign, (signText sign).any Text.isBlank = false := by
      rintro (_ | _ | _) <;> decide
    exact (by simpa using hsign w.sign : ∀ c ∈ signText w.sign, Text.isBlank c = false) c hc
  · unfold body at hc
    split at hc
    · rw [List.mem_singleton.mp hc]
      decide
    · obtain ⟨p, -, hp⟩ := List.mem_flatMap.mp hc
      exact p.isBlank_of_mem_text hp

namespace WholePart

open Binary64 (maxExact)

def text (t : WholePart) : List Char := (toString t.count).toList ++ t.spelling

def nanoseconds (t : WholePart) : Nat := t.count * t.unit.length

/-- The part that is written. -/
def written (t : WholePart) : WrittenPart where
  part := ⟨(toString t.count).toList, [], t.unit⟩
  hasPoint := false
  spelling := t.spelling
  digits := by
    intro c hc
    rw [List.append_nil] at hc
    rw [Text.isDecimalDigit, Text.decimalDigit?_of_isDigit (Text.isDigit_of_mem_toString hc)]
    rfl
  hasDigit := by
    rw [List.append_nil, Text.toList_toString]
    exact Nat.toDigits_ne_nil
  pointed := fun h => absurd rfl h
  spelled := t.spelled

theorem flatMap_text_written (parts : List WholePart) :
    (parts.map written).flatMap WrittenPart.text = parts.flatMap text := List.flatMap_map ..

theorem number_written (t : WholePart) : t.written.number = t.count := by
  have hdigits : Nat.ofDigits 10 t.written.digitValues = t.count := by
    unfold WrittenPart.digitValues written
    dsimp only
    rw [List.append_nil, ← Text.decimalValue_eq, Text.decimalValue_toString]
  rw [WrittenPart.number, hdigits]
  exact div_one _

theorem isNat_nanoseconds {t : WholePart} (h : t.nanoseconds ≤ maxExact) :
    t.written.nanoseconds.IsNat t.nanoseconds := by
  have hunit : 0 < t.unit.length ∧ t.unit.length ≤ maxExact := by
    cases t.unit <;> decide
  have hcount : t.count ≤ maxExact := (Nat.le_mul_of_pos_right _ hunit.1).trans h
  exact (Binary64.isNat_ofRat hcount t.number_written).mul (Binary64.isNat_ofInt hunit.2) h

/-- As long as the sum is a double nothing is lost when the parts are added up. -/
theorem isNat_sum (parts : List WholePart) :
    ∀ {x : Binary64} {n : Nat}, x.IsNat n → n + (parts.map nanoseconds).sum ≤ maxExact →
      ((parts.map fun t => t.written.nanoseconds).foldl Binary64.add x).IsNat
        (n + (parts.map nanoseconds).sum) := by
  induction parts with
  | nil => exact fun hx _ => hx
  | cons t parts ih =>
      intro x n hx h
      have hsum : n + ((t :: parts).map nanoseconds).sum
          = n + t.nanoseconds + (parts.map nanoseconds).sum := by
        rw [List.map_cons, List.sum_cons, Nat.add_assoc]
      rw [hsum] at h ⊢
      exact ih (hx.add (isNat_nanoseconds (by omega)) (by omega)) h

end WholePart

namespace Duration

open Binary64 (maxExact)

/-- The text of parts behind a sign. -/
def wholeText (sign : Option Bool) (parts : List WholePart) : String :=
  String.ofList (WrittenDuration.signText sign ++ parts.flatMap WholePart.text)

/-- A whole number with a sign, true for a minus. -/
def signed (sign : Option Bool) (n : Nat) : Int := if sign = some true then -n else n

theorem toRat?_nanoseconds {sign : Option Bool} {parts : List WholePart}
    (h : (parts.map WholePart.nanoseconds).sum ≤ maxExact) :
    (WrittenDuration.nanoseconds ⟨sign, parts.map WholePart.written⟩).toRat?
      = some (signed sign (parts.map WholePart.nanoseconds).sum : Rat) := by
  obtain ⟨m, e, hsum, hvalue⟩ :=
    WholePart.isNat_sum parts Binary64.isNat_zero (by rwa [Nat.zero_add])
  have hmapped : ((parts.map WholePart.written).map WrittenPart.nanoseconds).foldl Binary64.add
      (Binary64.zero false) = .finite false m e := by
    rw [List.map_map]
    exact hsum
  rw [Nat.zero_add] at hvalue
  unfold WrittenDuration.nanoseconds signed
  dsimp only
  rw [hmapped]
  split
  · rw [Int.cast_neg, Int.cast_natCast, ← hvalue]
    rfl
  · rw [Int.cast_natCast, ← hvalue]
    rfl

/-- The text of parts has no blanks. -/
theorem text_wholeText (sign : Option Bool) {parts : List WholePart} (hparts : parts ≠ []) :
    WrittenDuration.text ⟨sign, parts.map WholePart.written⟩
      = core (wholeText sign parts) := by
  have hwritten : WrittenDuration.text ⟨sign, parts.map WholePart.written⟩
      = (wholeText sign parts).toList := by
    unfold WrittenDuration.text wholeText
    rw [WrittenDuration.body_of_ne_nil (by simpa using hparts), WholePart.flatMap_text_written,
      String.toList_ofList]
  unfold core
  rw [← hwritten, Text.trim_eq_self (WrittenDuration.isBlank_of_mem_text _)]

/-- The duration that the text of whole numbers with units denotes. -/
theorem ofText_wholeText (sign : Option Bool) {parts : List WholePart} (hparts : parts ≠ [])
    (h : (parts.map WholePart.nanoseconds).sum ≤ maxExact) :
    ofText (wholeText sign parts)
      = .ok (nearest (signed sign (parts.map WholePart.nanoseconds).sum)) := by
  rw [ofText_text (text_wholeText sign hparts),
    ofNanoseconds?_double (by unfold signed; split <;> omega) (toRat?_nanoseconds h)]

end Duration

namespace Intake

open Binary64 (maxExact)
open Duration (nearest signed wholeText)

theorem durationOfNumber_int {z : Int} (hz : z.natAbs ≤ maxExact) :
    durationOfNumber (.int z) = .ok (nearest z) := by
  unfold durationOfNumber
  dsimp only
  rw [Duration.ofNanoseconds?_int hz]

theorem durationOfNumber_double {x : Binary64} {z : Int} (hz : z.natAbs ≤ maxExact)
    (hx : x.toRat? = some (z : Rat)) : durationOfNumber (.double x) = .ok (nearest z) := by
  have hwhole : x.isWhole = true := by
    unfold Binary64.toRat? at hx
    split at hx
    · rename_i hfinite
      unfold Binary64.isWhole
      rw [hfinite, Option.some.inj hx]
      rfl
    · cases hx
  unfold durationOfNumber
  dsimp only
  rw [hwhole]
  dsimp only
  rw [Duration.ofNanoseconds?_double hz hx]

/-- However a total of nanoseconds is split into parts, its text, the number and the double of it
are read as one duration, and the opposite total as the opposite duration. -/
theorem durations_agree (sign : Option Bool) (parts : List WholePart) (hparts : parts ≠ [])
    (hsmall : (parts.map WholePart.nanoseconds).sum ≤ 2 ^ 53) :
    let z := signed sign (parts.map WholePart.nanoseconds).sum
    duration (.string (wholeText sign parts)) = .valid (nearest z) ∧
      duration (.number (.int z)) = .valid (nearest z) ∧
      (∀ x : Binary64, x.toRat? = some (z : Rat) →
        duration (.number (.double x)) = .valid (nearest z)) ∧
      (Binary64.ofInt z).toRat? = some (z : Rat) ∧
      nearest (-z) = (nearest z).opposite := by
  have hsmall' : (parts.map WholePart.nanoseconds).sum ≤ maxExact := hsmall
  have hz : (signed sign (parts.map WholePart.nanoseconds).sum).natAbs ≤ maxExact := by
    unfold signed
    split <;> omega
  refine ⟨?_, ?_, ?_, Binary64.toRat?_ofInt hz, Duration.nearest_neg _⟩
  · unfold duration
    dsimp only
    rw [Duration.ofText_wholeText sign hparts hsmall']
  · unfold duration
    dsimp only
    rw [durationOfNumber_int hz]
  · intro x hx
    unfold duration
    dsimp only
    rw [durationOfNumber_double hz hx]

/-- Fifteen hundred nanoseconds are a tie between one microsecond and two. -/
theorem durations_agree_tie :
    duration (.string "-1us500ns") = .valid ⟨-2⟩ ∧
      duration (.number (.int (-1500))) = .valid ⟨-2⟩ := by
  have h := durations_agree (some true)
    [⟨1, .microsecond, "us".toList, by decide⟩, ⟨500, .nanosecond, "ns".toList, by decide⟩]
    (by decide) (by decide)
  have htie : nearest (-1500) = ⟨-2⟩ := Duration.nearest_sign true 1500
  exact ⟨htie ▸ h.1, htie ▸ h.2.1⟩

end Intake

end RetrievalTelemetry
