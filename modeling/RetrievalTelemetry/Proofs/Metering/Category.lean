/-
The category of a failure message.

Eleven categories have a mark, a few words that stand in their messages, and they come in an order:
a message with the marks of two categories is of the one that comes first.  A message without a
mark is of the category of all others.  So each message is of one category only.
-/
import RetrievalTelemetry.ErrorCategory

namespace RetrievalTelemetry

namespace ErrorCategory

/-- The categories in the order of their priority, each with the words that mark it. -/
def priorities : List (ErrorCategory × String) :=
  [(rejected, "response rejected"),
   (tooMany, "Too many retrieval deals received"),
   (acl, "Access Control"),
   (maintenance, "Under maintenance, retry later"),
   (noOnline, "miner is not accepting online retrieval deals"),
   (unconfirmed, "unconfirmed block transfer"),
   (timeout, "timeout after "),
   (noUnsealed, "there is no unsealed piece containing payload cid"),
   (dagstore, "getting pieces for cid"),
   (graphsync, "graphsync request failed to complete: request failed - unknown reason"),
   (failedToDial, "failed to dial")]

/-- Words stand somewhere in a message, with nothing in between. -/
def StandsIn (words message : String) : Prop :=
  ∃ before after, before ++ words.toList ++ after = message.toList

/-- A message is of the first category whose mark stands in it; without a mark it is of no other one. -/
inductive IsOf (message : String) : ErrorCategory → Prop where
  | marked {before after : List (ErrorCategory × String)} {category : ErrorCategory}
      {mark : String} (hpriorities : priorities = before ++ (category, mark) :: after)
      (hstands : StandsIn mark message) (hfirst : ∀ p ∈ before, ¬StandsIn p.2 message) :
      IsOf message category
  | unmarked (hnone : ∀ p ∈ priorities, ¬StandsIn p.2 message) : IsOf message other

theorem contains_iff_standsIn {words message : String} :
    Text.contains message words = true ↔ StandsIn words message := by
  unfold Text.contains StandsIn
  rw [Text.occursIn_iff_isInfix]
  rfl

/-- The category that is found is that of the first mark by priority. -/
theorem ofMessage_eq_find? (message : String) :
    ofMessage message
      = ((priorities.find? fun p => Text.contains message p.2).map Prod.fst).getD other := by
  have hmarks : marks = priorities.map Prod.swap := rfl
  have hswapped : (fun mark : String × ErrorCategory => Text.contains message mark.1) ∘ Prod.swap
      = fun p : ErrorCategory × String => Text.contains message p.2 := rfl
  unfold ofMessage
  rw [hmarks, List.find?_map, hswapped]
  cases priorities.find? fun p => Text.contains message p.2 <;> rfl

/-- A message is of the category that is found for it, and of no other one. -/
theorem isOf_iff {message : String} {category : ErrorCategory} :
    IsOf message category ↔ ofMessage message = category := by
  rw [ofMessage_eq_find?]
  constructor
  · intro h
    cases h with
    | @marked before after category mark hpriorities hstands hfirst =>
        have hfind : priorities.find? (fun p => Text.contains message p.2)
            = some (category, mark) := by
          refine List.find?_eq_some_iff_append.mpr
            ⟨contains_iff_standsIn.mpr hstands, _, _, hpriorities, fun p hp => ?_⟩
          simpa [← contains_iff_standsIn] using hfirst p hp
        rw [hfind]
        rfl
    | unmarked hnone =>
        have hfind : priorities.find? (fun p => Text.contains message p.2) = none :=
          List.find?_eq_none.mpr fun p hp h => hnone p hp (contains_iff_standsIn.mp h)
        rw [hfind]
        rfl
  · rintro rfl
    cases hfind : priorities.find? fun p => Text.contains message p.2 with
    | none =>
        exact .unmarked fun p hp h =>
          List.find?_eq_none.mp hfind p hp (contains_iff_standsIn.mpr h)
    | some p =>
        obtain ⟨hstands, before, after, hpriorities, hfirst⟩ :=
          List.find?_eq_some_iff_append.mp hfind
        refine .marked hpriorities (contains_iff_standsIn.mp hstands) fun q hq h => ?_
        have hnot := hfirst q hq
        rw [contains_iff_standsIn.mpr h] at hnot
        cases hnot

/-- Two marks stand in this message; a timeout comes before a failed dial. -/
example : ofMessage "failed to dial: timeout after 5s" = timeout := by decide +kernel

end ErrorCategory

end RetrievalTelemetry
