/-
What can be wrong with a text that has the tag its form tells.

A form promises that the text can be read as what it looks like, up to what a form cannot tell: a
number may have digits of a wrong base, a date need not exist, and a double of base sixty may have
more places than doubles have room for.  None of the faults that nobody expects is among them, but
for this last one.  The end of a line behind a text, which a form ignores, has to be left off.
-/
import Mathlib.Data.List.Basic
import RetrievalTelemetry.Yaml.Meaning

namespace RetrievalTelemetry.Yaml

/-- A fault that is foreseen, or one of size or depth. -/
def Expected (fault : Fault) : Prop :=
  fault.isForeseen = true ∨ fault = .tooLarge ∨ fault = .tooDeep

/-- A calculation gives something with a property, or an expected fault. -/
def Ends {α : Type} (P : α → Prop) : Except Fault α → Prop
  | .ok a => P a
  | .error fault => Expected fault

theorem Ends.bind {α β : Type} {P : α → Prop} {Q : β → Prop} {x : Except Fault α}
    {k : α → Except Fault β} (hx : Ends P x) (hk : ∀ a, P a → Ends Q (k a)) : Ends Q (x >>= k) := by
  cases x with
  | error fault => exact hx
  | ok a => exact hk a hx

theorem Ends.map {α β : Type} {Q : β → Prop} {x : Except Fault α} (f : α → β)
    (hx : Ends (fun a => Q (f a)) x) : Ends Q (x.map f) := by
  cases x with
  | error fault => exact hx
  | ok a => exact hx

theorem Ends.foldlM {σ α : Type} {I : σ → Prop} {step : σ → α → Except Fault σ}
    (hstep : ∀ s a, I s → Ends I (step s a)) (l : List α) :
    ∀ s, I s → Ends I (l.foldlM step s) := by
  induction l with
  | nil => exact fun _ hs => hs
  | cons a l ih =>
      intro s hs
      rw [List.foldlM_cons]
      exact (hstep s a hs).bind ih

namespace Meaning

/-- A reading that gives something, or an expected fault. -/
abbrev Reads {α : Type} (x : Except Fault α) : Prop := Ends (fun _ => True) x

theorem reads_ofNumeral {α : Type} (x : Except Text.NumeralError α) : Reads (ofNumeral x) := by
  cases x with
  | error => exact .inl rfl
  | ok => trivial

theorem reads_mapM {α β : Type} {f : α → Except Fault β} (hf : ∀ a, Reads (f a)) (l : List α) :
    Reads (l.mapM f) := by
  induction l with
  | nil => trivial
  | cons a l ih =>
      rw [List.mapM_cons]
      exact (hf a).bind fun b _ => ih.bind fun bs _ => trivial

theorem reads_signed {cs : List Char} (h : cs ≠ []) : Reads (signed cs) := by
  cases cs with
  | nil => exact absurd rfl h
  | cons => trivial

/-! ### Numbers -/

theorem reads_natural {cs : List Char} (h : cs ≠ []) : Reads (natural cs) := by
  unfold natural
  split
  · exact absurd rfl h
  · trivial
  · exact reads_ofNumeral _
  · exact reads_ofNumeral _
  · exact reads_ofNumeral _
  · exact Ends.map _ (reads_mapM (fun cs => reads_ofNumeral _) _)

theorem reads_sumSixty (digits : List Binary64) : ∀ (weight : Int) (sum : Binary64),
    Reads (sumSixty weight sum digits) := by
  induction digits with
  | nil => exact fun _ _ => trivial
  | cons digit rest ih =>
      intro weight sum
      unfold sumSixty
      dsimp only
      split
      · exact ih _ _
      · exact .inr (.inl rfl)

theorem reads_unsignedDouble (cs : List Char) : Reads (unsignedDouble cs) := by
  unfold unsignedDouble
  dsimp only
  split
  · trivial
  · split
    · trivial
    · split
      · exact (reads_mapM (fun cs => reads_ofNumeral _) _).bind fun digits _ => reads_sumSixty _ _ _
      · exact reads_ofNumeral _

theorem reads_double {cs : List Char} (h : Text.inSmallLetters (withoutGaps cs) ≠ []) :
    Reads (double cs) :=
  (reads_signed h).bind fun _ _ => (reads_unsignedDouble _).bind fun _ _ => trivial

/-! ### Forms -/

theorem inSmallLetters_ne_nil {cs : List Char} (h : cs ≠ []) : Text.inSmallLetters cs ≠ [] := by
  cases cs with
  | nil => exact absurd rfl h
  | cons c cs =>
      unfold Text.inSmallLetters
      rw [List.flatMap_cons]
      split <;> exact List.cons_ne_nil _ _

theorem withoutGaps_ne_nil {cs : List Char} {c : Char} (hmem : c ∈ cs) (hc : c ≠ '_') :
    withoutGaps cs ≠ [] :=
  List.ne_nil_of_mem (List.mem_filter.mpr ⟨hmem, by simpa using hc⟩)

theorem splitSign_suffix (cs : List Char) : (Text.splitSign cs).2 <:+ cs := by
  unfold Text.splitSign
  split
  · exact List.suffix_cons ..
  · exact List.suffix_cons ..
  · exact List.suffix_refl _

/-- A double has a point or a colon. -/
theorem exists_mark_of_isDouble {cs : List Char} (h : Tag.isDouble cs = true) :
    ∃ c ∈ cs, c ≠ '_' := by
  have hmark : ∃ c ∈ (Text.splitSign cs).2, c = '.' ∨ c = ':' := by
    unfold Tag.isDouble at h
    dsimp only at h
    have hword : ∀ words : List String, (words.all fun w => w.toList.contains '.') = true →
        words.contains (String.ofList (Text.splitSign cs).2) = true →
        ∃ c ∈ (Text.splitSign cs).2, c = '.' ∨ c = ':' := by
      intro words hwords hmem
      have hpoint := List.all_eq_true.mp hwords _ (List.contains_iff_mem.mp hmem)
      rw [String.toList_ofList] at hpoint
      exact ⟨'.', List.contains_iff_mem.mp hpoint, .inl rfl⟩
    split at h
    · rename_i hmem
      exact hword _ (by decide) hmem
    · split at h
      · rename_i hmem
        exact hword _ (by decide) hmem
      · have hdrop : ∀ {c rest}, (Text.splitSign cs).2.dropWhile Tag.isDigitOrGap = c :: rest →
            c ∈ (Text.splitSign cs).2 := fun hdrop =>
          (List.dropWhile_suffix _).subset (hdrop ▸ List.mem_cons_self ..)
        split at h
        · rename_i hrest
          exact ⟨'.', hdrop hrest, .inl rfl⟩
        · rename_i hrest
          exact ⟨':', hdrop hrest, .inr rfl⟩
        · cases h
  obtain ⟨c, hmem, hc⟩ := hmark
  refine ⟨c, (splitSign_suffix cs).subset hmem, ?_⟩
  rcases hc with rfl | rfl <;> decide

/-- A whole number begins with a digit, behind its sign. -/
theorem exists_digit_of_isNatural {cs : List Char} (h : Tag.isNatural cs = true) :
    ∃ d rest, cs = d :: rest ∧ d.isDigit = true := by
  unfold Tag.isNatural at h
  dsimp only at h
  split at h
  · exact ⟨_, _, rfl, by decide⟩
  · exact ⟨_, _, rfl, by decide⟩
  · exact ⟨_, _, rfl, by decide⟩
  · exact ⟨_, _, rfl, by decide⟩
  · cases cs with
    | nil => cases h
    | cons c cs =>
        refine ⟨c, cs, rfl, ?_⟩
        split at h
        · cases h
        · rename_i first rest hsplit
          have hhead : first.head?.any Char.isDigit = true :=
            (Bool.and_eq_true_iff.mp (Bool.and_eq_true_iff.mp h).1).1
          unfold Text.splitBy at hsplit
          split at hsplit
          · cases hsplit
            exact hhead
          · split at hsplit
            · cases hsplit
              cases hhead
            · cases hsplit
              exact hhead

theorem withoutGaps_cons {c : Char} (hc : c ≠ '_') (cs : List Char) :
    withoutGaps (c :: cs) = c :: withoutGaps cs := List.filter_cons_of_pos (by simpa using hc)

/-- Leaving out the gaps leaves the sign, and the digit behind it. -/
theorem splitSign_withoutGaps {cs : List Char} {d : Char} {rest : List Char}
    (h : (Text.splitSign cs).2 = d :: rest) (hdigit : d.isDigit = true) :
    (Text.splitSign (withoutGaps cs)).2 = d :: withoutGaps rest := by
  have hd : d ≠ '_' ∧ d ≠ '+' ∧ d ≠ '-' := by
    refine ⟨?_, ?_, ?_⟩ <;> rintro rfl <;> cases hdigit
  unfold Text.splitSign at h
  split at h
  · obtain rfl : _ = d :: rest := h
    rw [withoutGaps_cons (by decide), withoutGaps_cons hd.1]
    rfl
  · obtain rfl : _ = d :: rest := h
    rw [withoutGaps_cons (by decide), withoutGaps_cons hd.1]
    rfl
  · rw [show cs = d :: rest from h, withoutGaps_cons hd.1]
    unfold Text.splitSign
    split
    · rename_i hplus
      exact absurd (List.cons.inj hplus).1 hd.2.1
    · rename_i hminus
      exact absurd (List.cons.inj hminus).1 hd.2.2
    · rfl

theorem reads_integer {cs : List Char} (h : Tag.isInteger cs = true) : Reads (integer cs) := by
  obtain ⟨d, rest, hbody, hdigit⟩ := exists_digit_of_isNatural h
  have hsplit := splitSign_withoutGaps hbody hdigit
  have hsigned : Ends (fun r => r.2 ≠ []) (signed (withoutGaps cs)) := by
    cases hgaps : withoutGaps cs with
    | nil =>
        rw [hgaps] at hsplit
        cases hsplit
    | cons c gs =>
        rw [hgaps] at hsplit
        show (Text.splitSign (c :: gs)).2 ≠ []
        rw [hsplit]
        exact List.cons_ne_nil _ _
  exact hsigned.bind fun _ hne => (reads_natural hne).bind fun _ _ => trivial

/-! ### Dates and moments -/

theorem reads_checkDate (d : CalendarDate) : Reads (checkDate d) := by
  unfold checkDate
  split
  · exact .inl rfl
  · split
    · exact .inl rfl
    · split
      · exact .inl rfl
      · trivial

theorem reads_checkMoment (m : Moment) : Reads (checkMoment m) := by
  have hfields : Reads (do
      let _ ← checkDate m.date
      if 23 < m.hour then .error .hourOutOfRange
      else if 59 < m.minute then .error .minuteOutOfRange
      else if 59 < m.second then .error .secondOutOfRange
      else .ok m) := by
    refine (reads_checkDate m.date).bind fun _ _ => ?_
    split
    · exact .inl rfl
    · split
      · exact .inl rfl
      · split
        · exact .inl rfl
        · trivial
  unfold checkMoment
  cases m.offset with
  | none => exact hfields
  | some minutes =>
      by_cases hminutes : 1440 ≤ minutes.natAbs
      · simp only [hminutes, if_true]
        exact .inl rfl
      · simp only [hminutes, if_false]
        exact hfields

theorem reads_time {cs : List Char} (h : Tag.timeOf? (Tag.withoutLastBreak cs) ≠ none) :
    Reads (time cs) := by
  unfold time
  split
  · rename_i hnone
    exact absurd hnone h
  · exact Ends.map _ (reads_checkDate _)
  · exact Ends.map _ (reads_checkMoment _)

/-! ### Words -/

theorem reads_truth {word : String} (h : Tag.truthWords.contains word = true) :
    Reads (truth word.toList) := by
  have hall : Tag.truthWords.all (fun w => (truth w.toList).isOk) = true := by decide +kernel
  have hok := List.all_eq_true.mp hall word (List.contains_iff_mem.mp h)
  cases htruth : truth word.toList with
  | ok => trivial
  | error =>
      rw [htruth] at hok
      cases hok

end Meaning

/-- Nothing unexpected is wrong with a text under the tag that its form tells. -/
theorem reads_meaning_ofPlain {text : String} (h : text.toList.getLast? ≠ some '\n') :
    Meaning.Reads ((Tag.ofPlain text).meaning text) := by
  have hcs : Tag.withoutLastBreak text.toList = text.toList := if_neg h
  have hstem : String.ofList (Tag.withoutLastBreak text.toList) = text := by
    rw [hcs, String.ofList_toList]
  unfold Tag.ofPlain
  dsimp only
  rw [hstem]
  split
  · trivial
  split
  · trivial
  split
  · rename_i htruth
    exact Ends.map _ (Meaning.reads_truth htruth)
  split
  · rename_i hdouble
    rw [hcs] at hdouble
    obtain ⟨c, hmem, hc⟩ := Meaning.exists_mark_of_isDouble hdouble
    exact Ends.map _ (Meaning.reads_double
      (Meaning.inSmallLetters_ne_nil (Meaning.withoutGaps_ne_nil hmem hc)))
  split
  · rename_i hinteger
    rw [hcs] at hinteger
    exact Ends.map _ (Meaning.reads_integer hinteger)
  split
  · exact .inl rfl
  split
  · trivial
  split
  · rename_i htime
    refine Meaning.reads_time fun hnone => ?_
    unfold Tag.isTime at htime
    rw [hnone] at htime
    cases htime
  split
  · exact .inl rfl
  split
  · exact .inl rfl
  · trivial

end RetrievalTelemetry.Yaml
