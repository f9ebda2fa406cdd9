/-
Which batches are valid.

A check of a list puts together the checks of its items and is passed only if each of them is.
So a posted batch is valid exactly if its body is an object with a list of events, and every
item of the list is valid for itself.
-/
import Mathlib.Data.List.Forall2
import RetrievalTelemetry.Intake.EventBatch
import RetrievalTelemetry.Intake.RecordBatch

namespace RetrievalTelemetry

namespace Checked

/-- A value with a name in front of its problems is valid if it was. -/
theorem under_eq_valid {α : Type} {step : String} {x : Checked α} {a : α} :
    x.under step = valid a ↔ x = valid a := by
  cases x with
  | valid b => exact Iff.rfl
  | invalid problems => simp [under]

/-- Two checks put together are passed if both are. -/
theorem seq_map_eq_valid {α β γ : Type} {f : α → β → γ} {x : Checked α} {y : Checked β} {c : γ} :
    seq (map f x) y = valid c ↔ ∃ a b, x = valid a ∧ y = valid b ∧ f a b = c := by
  cases x with
  | invalid problems =>
      cases y with
      | invalid more => simp [seq, map]
      | valid b => simp [seq, map]
  | valid a =>
      cases y with
      | invalid more => simp [seq, map]
      | valid b => simp [seq, map]

/-- The check of a list is passed if every item is valid, whatever the items are numbered. -/
theorem eachItem_eq_valid {α β : Type} {check : α → Checked β} {start : Nat} {l : List α}
    {items : List β} :
    eachItem check start l = valid items ↔
      List.Forall₂ (fun value item => check value = valid item) l items := by
  induction l generalizing start items with
  | nil =>
      rw [List.forall₂_nil_left_iff]
      constructor
      · intro h
        cases h
        rfl
      · rintro rfl
        rfl
  | cons value rest ih =>
      rw [eachItem, seq_map_eq_valid]
      constructor
      · rintro ⟨item, others, hitem, hothers, rfl⟩
        exact List.Forall₂.cons (under_eq_valid.mp hitem) (ih.mp hothers)
      · intro h
        cases h with
        | cons hitem hothers =>
            exact ⟨_, _, under_eq_valid.mpr hitem, ih.mpr hothers, rfl⟩

end Checked

namespace JsonCheck

variable {α : Type} {check : JsonCheck α} {json : Json}

/-- A required field is valid if it is there and its value is. -/
theorem required_eq_valid {name : String} {a : α} :
    required name check json = .valid a ↔
      ∃ value, json.field? name = some value ∧ check value = .valid a := by
  unfold required
  cases json.field? name with
  | none => simp [Checked.refuse, Checked.under]
  | some value => simp [Checked.under_eq_valid]

/-- A field that may be left out is valid if it is left out or its value is. -/
theorem optional_eq_valid {name : String} {default a : α} :
    optional name default check json = .valid a ↔
      (json.field? name = none ∧ default = a) ∨
        ∃ value, json.field? name = some value ∧ check value = .valid a := by
  unfold optional
  cases json.field? name with
  | none => simp
  | some value => simp [Checked.under_eq_valid]

/-- An object is valid if its fields are. -/
theorem object_eq_valid {a : α} :
    object check json = .valid a ↔ (∃ fields, json = .object fields) ∧ check json = .valid a := by
  cases json with
  | object fields => simp [object]
  | _ => simp [object, Checked.refuse]

/-- A list is valid if every item is. -/
theorem array_eq_valid {items : List α} :
    array check json = .valid items ↔
      ∃ values, json = .array values ∧
        List.Forall₂ (fun value a => check value = .valid a) values items := by
  cases json with
  | array values => simp [array, Checked.eachItem_eq_valid]
  | _ => simp [array, Checked.refuse]

end JsonCheck

namespace Intake

/-- The body is an object with a list of events, whose items are valid and denote these. -/
def Denotes {α : Type} (item : JsonCheck α) (body : ByteArray) (items : List α) : Prop :=
  ∃ json values, Json.ofBytes? .strict body = some json ∧
    json.field? "events" = some (.array values) ∧
    List.Forall₂ (fun value a => item value = .valid a) values items

/-- Text that is sent is the text that is read. -/
theorem ofBytes?_ofList (dialect : Json.Dialect) (cs : List Char) :
    Json.ofBytes? dialect (String.ofList cs).toUTF8 = (Json.readChars dialect cs).toOption := by
  have hdecoded : String.fromUTF8? (String.ofList cs).toUTF8 = some (String.ofList cs) :=
    dif_pos (String.ofList cs).isValidUTF8
  unfold Json.ofBytes? Json.read? Json.read
  rw [hdecoded, Option.bind_some, String.toList_ofList]

theorem ofBytes?_ofList_append (dialect : Json.Dialect) (as bs cs : List Char) :
    Json.ofBytes? dialect (String.ofList as ++ String.ofList bs ++ String.ofList cs).toUTF8
      = (Json.readChars dialect (as ++ bs ++ cs)).toOption := by
  rw [← String.ofList_append, ← String.ofList_append, ofBytes?_ofList]

/-- Only an object has fields. -/
theorem exists_object_of_field? {json value : Json} {name : String}
    (h : json.field? name = some value) : ∃ fields, json = .object fields := by
  cases json with
  | object fields => exact ⟨fields, rfl⟩
  | _ => cases h

/-- A batch is valid if its body denotes items. -/
theorem batch_eq_ok {α : Type} {item : JsonCheck α} {body : ByteArray} {items : List α} :
    batch item (Json.ofBytes? .strict body) = .ok items ↔ Denotes item body items := by
  unfold Denotes
  cases Json.ofBytes? .strict body with
  | none => simp [batch]
  | some json =>
      have hbatch : batch item (some json) = .ok items ↔
          JsonCheck.object (JsonCheck.required "events" (JsonCheck.array item)) json
            = .valid items := by
        simp only [batch]
        generalize JsonCheck.object (JsonCheck.required "events" (JsonCheck.array item)) json = x
        cases x with
        | valid read => simp
        | invalid problems => simp
      rw [hbatch, JsonCheck.object_eq_valid, JsonCheck.required_eq_valid]
      constructor
      · rintro ⟨-, value, hfield, hvalue⟩
        obtain ⟨values, rfl, hitems⟩ := JsonCheck.array_eq_valid.mp hvalue
        exact ⟨json, values, rfl, hfield, hitems⟩
      · rintro ⟨_, values, ⟨rfl⟩, hfield, hitems⟩
        exact ⟨exists_object_of_field? hfield, _, hfield,
          JsonCheck.array_eq_valid.mpr ⟨values, rfl, hitems⟩⟩

/-- A text denotes the batch that its characters are read as. -/
theorem exists_denotes_ofList {α β : Type} {item : JsonCheck α} {cs : List Char} {f : List α → β}
    {b : β} (h : (batch item (Json.readChars .strict cs).toOption).toOption.map f = some b) :
    ∃ items, Denotes item (String.ofList cs).toUTF8 items ∧ f items = b := by
  cases hbatch : batch item (Json.readChars .strict cs).toOption with
  | error problems =>
      rw [hbatch] at h
      cases h
  | ok items =>
      rw [hbatch] at h
      rw [← ofBytes?_ofList] at hbatch
      exact ⟨items, batch_eq_ok.mp hbatch, Option.some.inj h⟩

end Intake

end RetrievalTelemetry
