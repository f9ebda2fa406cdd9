/-
Which timestamps say where they are.

A text with a date says where its clock is only if an offset stands behind the time of day.  A date
alone, or with a time of day and nothing behind it, is naive and is never read as a timestamp.  A
timestamp that is read shows the clock of its text with the offset of its text.  Numbers count from a
point in UTC, so they need no offset.
-/
import RetrievalTelemetry.Intake.Field

namespace RetrievalTelemetry

namespace Timestamp

/-! ### Texts with a date -/

/-- The text begins with a date and a time of day, and `rest` stands behind them. -/
def ShowsClock (cs : List Char) (date : CalendarDate) (time : Nat) (rest : List Char) : Prop :=
  ∃ separator behind, takeDate cs = some (date, separator :: behind) ∧
    (separator = 'T' ∨ separator = 't' ∨ separator = ' ' ∨ separator = '_') ∧
    takeTime behind = some (time, rest)

/-- A date, or a date and a time of day, with nothing behind it. -/
def IsNaive (cs : List Char) : Prop :=
  (∃ date, takeDate cs = some (date, [])) ∨ ∃ date time, ShowsClock cs date time []

/-- The timestamp shows what the text does, with the offset that stands behind the time of day. -/
def Zoned (cs : List Char) (t : Timestamp) : Prop :=
  ∃ date time rest, ShowsClock cs date time rest ∧ readOffset rest = some (some t.offset) ∧
    t.wall = ⟨wallMicros date time⟩

theorem ofDateText_date {cs : List Char} {date : CalendarDate} (h : takeDate cs = some (date, [])) :
    ofDateText cs = some (.error .noOffset) := by
  unfold ofDateText
  simp only [h, bind, Option.bind]

theorem ofDateText_clock {cs rest : List Char} {date : CalendarDate} {time : Nat}
    (h : ShowsClock cs date time rest) :
    ofDateText cs =
      (readOffset rest).bind fun offset =>
        match offset with
        | none => some (.error .noOffset)
        | some offset =>
          if date.year = 0 then some (.error .malformed)
          else some (.ok ⟨wallMicros date time - offset * 60000000, offset⟩) := by
  obtain ⟨separator, behind, hdate, hseparator, htime⟩ := h
  have hmark : (separator = 'T' || separator = 't' || separator = ' ' || separator = '_') = true := by
    simpa [or_assoc] using hseparator
  unfold ofDateText
  cases hoffset : readOffset rest with
  | none => simp only [hdate, bind, Option.bind, hmark, if_true, htime, hoffset]
  | some offset =>
      cases offset <;> simp only [hdate, bind, Option.bind, hmark, if_true, htime, hoffset]

theorem lt_of_takeOffsetSize {cs rest : List Char} {size : Nat}
    (h : takeOffsetSize cs = some (size, rest)) : size < 1440 := by
  unfold takeOffsetSize at h
  obtain ⟨⟨hour, behind⟩, -, h⟩ := Option.bind_eq_some_iff.mp h
  obtain ⟨⟨minute, rest'⟩, -, h⟩ := Option.bind_eq_some_iff.mp h
  dsimp only at h
  split at h
  · cases h
  · rename_i hbound
    cases h
    simp only [Bool.or_eq_true, decide_eq_true_eq, not_or] at hbound
    omega

/-- An offset is less than a day. -/
theorem natAbs_lt_of_readOffset {rest : List Char} {offset : Int}
    (h : readOffset rest = some (some offset)) : offset.natAbs < 1440 := by
  unfold readOffset at h
  split at h
  · cases h
  · split at h
    · split at h
      · cases h
        decide
      · cases h
    · split at h
      · split at h
        · rename_i size hsize
          have hbound := lt_of_takeOffsetSize hsize
          cases h
          split <;> omega
        · cases h
      · cases h

/-- A naive text is never read. -/
theorem ofText_naive {text : String} (h : IsNaive text.toList) : ofText text = .error .noOffset := by
  unfold ofText
  rcases h with ⟨date, hdate⟩ | ⟨date, time, hclock⟩
  · rw [ofDateText_date hdate]
    rfl
  · rw [ofDateText_clock hclock]
    rfl

/-- A timestamp that is read from a text with a date is zoned. -/
theorem zoned_of_ofDateText {cs : List Char} {t : Timestamp} (h : ofDateText cs = some (.ok t)) :
    Zoned cs t := by
  have hread := h
  unfold ofDateText at h
  obtain ⟨⟨date, behindDate⟩, hdate, h⟩ := Option.bind_eq_some_iff.mp h
  cases behindDate with
  | nil => cases h
  | cons separator behind =>
      dsimp only at h
      split at h
      · rename_i hmark
        obtain ⟨⟨time, rest⟩, htime, -⟩ := Option.bind_eq_some_iff.mp h
        have hclock : ShowsClock cs date time rest :=
          ⟨separator, behind, hdate, by simpa [or_assoc] using hmark, htime⟩
        rw [ofDateText_clock hclock] at hread
        obtain ⟨_ | offset, hoffset, hread⟩ := Option.bind_eq_some_iff.mp hread
        · cases hread
        · dsimp only at hread
          split at hread
          · cases hread
          · cases hread
            refine ⟨date, time, rest, hclock, hoffset, ?_⟩
            rw [wall, Int.sub_add_cancel]
      · cases h

/-- A timestamp that counts from a point in UTC is in UTC. -/
theorem offset_of_ofUnixMicros {micros : Int} {t : Timestamp} (h : ofUnixMicros micros = .ok t) :
    t.offset = 0 := by
  unfold ofUnixMicros at h
  dsimp only at h
  split at h
  · cases h
    rfl
  · cases h

theorem offset_of_ofDouble {x : Binary64} {t : Timestamp} (h : ofDouble x = .ok t) :
    t.offset = 0 := by
  unfold ofDouble at h
  split at h
  · cases h
  · exact offset_of_ofUnixMicros h

theorem offset_of_ofNumber {n : Number} {t : Timestamp} (h : ofNumber n = .ok t) :
    t.offset = 0 := by
  cases n with
  | int n => exact offset_of_ofUnixMicros h
  | double x => exact offset_of_ofDouble h

theorem offset_of_ofNumberText {cs : List Char} {t : Timestamp} (h : ofNumberText cs = .ok t) :
    t.offset = 0 := by
  unfold ofNumberText at h
  dsimp only at h
  split at h
  · cases h
  · split at h
    · exact offset_of_ofDouble h
    · exact offset_of_ofUnixMicros h
    · cases h

end Timestamp

namespace Intake

/-- The timestamp of a posted value says where it is: with the offset of a text, or as a number in
UTC. -/
inductive IsAware : Json → Timestamp → Prop
  | text {s : String} {t : Timestamp} (h : Timestamp.Zoned s.toList t) (hday : t.offset.natAbs < 1440) :
      IsAware (.string s) t
  | numberText {s : String} {t : Timestamp} (h : Timestamp.ofNumberText s.toList = .ok t)
      (hutc : t.offset = 0) : IsAware (.string s) t
  | number {n : Number} {t : Timestamp} (h : Timestamp.ofNumber n = .ok t) (hutc : t.offset = 0) :
      IsAware (.number n) t

/-- A naive text is refused. -/
theorem timestamp_naive {s : String} (h : Timestamp.IsNaive s.toList) :
    timestamp (.string s) = .refuse .withoutOffset := by
  unfold timestamp
  simp only [Timestamp.ofText_naive h]
  rfl

theorem isAware_of_ofText {s : String} {t : Timestamp} (h : Timestamp.ofText s = .ok t) :
    IsAware (.string s) t := by
  unfold Timestamp.ofText at h
  cases hdate : Timestamp.ofDateText s.toList with
  | none =>
      rw [hdate] at h
      exact .numberText h (Timestamp.offset_of_ofNumberText h)
  | some read =>
      rw [hdate] at h
      obtain rfl : read = .ok t := h
      obtain ⟨date, time, rest, hclock, hoffset, hwall⟩ := Timestamp.zoned_of_ofDateText hdate
      exact .text ⟨date, time, rest, hclock, hoffset, hwall⟩
        (Timestamp.natAbs_lt_of_readOffset hoffset)

/-- A posted timestamp that is valid says where it is. -/
theorem timestamp_isAware {json : Json} {t : Timestamp} (h : timestamp json = .valid t) :
    IsAware json t := by
  unfold timestamp at h
  cases json with
  | string s =>
      dsimp only at h
      cases hread : Timestamp.ofText s with
      | error e =>
          rw [hread] at h
          cases h
      | ok read =>
          rw [hread] at h
          cases h
          exact isAware_of_ofText hread
  | number n =>
      dsimp only at h
      cases hread : Timestamp.ofNumber n with
      | error e =>
          rw [hread] at h
          cases h
      | ok read =>
          rw [hread] at h
          cases h
          exact .number hread (Timestamp.offset_of_ofNumber hread)
  | _ => cases h

end Intake

end RetrievalTelemetry
