/-
Values that are the same to a depth.

A document may contain itself, so its value is taken to a depth.  Two values of one document agree
as far as both of them reach, and so do the two with one value laid over both.
-/
import Mathlib.Data.List.Forall2
import RetrievalTelemetry.Proofs.Yaml.Overlay
import RetrievalTelemetry.Yaml.Graph.Value

namespace RetrievalTelemetry.Yaml

/-- Whether two values are the same to a depth; of two sequences only the lengths are. -/
def Alike : (depth : Nat) → Yaml → Yaml → Prop
  | _, atom a, atom b => a = b
  | _, set a, set b => a = b
  | 0, sequence _, sequence _ => True
  | 0, mapping _, mapping _ => True
  | _ + 1, sequence a, sequence b => a.length = b.length
  | depth + 1, mapping a, mapping b =>
    List.Forall₂ (fun e f => e.1 = f.1 ∧ Alike depth e.2 f.2) a b
  | _, _, _ => False

/-- Whether entries have the same keys and values that are the same to a depth. -/
abbrev EntriesAlike (depth : Nat) : List (Atom × Yaml) → List (Atom × Yaml) → Prop :=
  List.Forall₂ fun e f => e.1 = f.1 ∧ Alike depth e.2 f.2

variable {depth : Nat}

theorem Alike.refl : ∀ (depth : Nat) (value : Yaml), Alike depth value value
  | 0, value => by cases value <;> simp [Alike]
  | depth + 1, value => by
      cases value with
      | mapping entries =>
          exact List.forall₂_same.mpr fun e _ => ⟨rfl, Alike.refl depth e.2⟩
      | atom | sequence | set => simp [Alike]

theorem EntriesAlike.refl (depth : Nat) (entries : List (Atom × Yaml)) :
    EntriesAlike depth entries entries :=
  List.forall₂_same.mpr fun e _ => ⟨rfl, Alike.refl depth e.2⟩

theorem Alike.scalar {x y : Yaml} (h : Alike depth x y) : x.scalar = y.scalar := by
  cases x <;> cases y <;> cases depth <;> simp_all [Alike, Yaml.scalar]

theorem Alike.isVoid {x y : Yaml} (h : Alike (depth + 1) x y) : x.isVoid = y.isVoid := by
  cases x with
  | atom =>
      cases y with
      | atom => rw [show _ = _ from h]
      | sequence | mapping | set => exact h.elim
  | sequence a =>
      cases y with
      | sequence b =>
          have hlength : a.length = b.length := h
          cases a <;> cases b <;> simp_all [Yaml.isVoid]
      | atom | mapping | set => exact h.elim
  | mapping a =>
      cases y with
      | mapping b => cases (show EntriesAlike depth a b from h) <;> rfl
      | atom | sequence | set => exact h.elim
  | set =>
      cases y with
      | set => rw [show _ = _ from h]
      | atom | sequence | mapping => exact h.elim

/-! ### Values of one document -/

/-- The values of a part to two depths agree to the smaller one. -/
theorem Graph.alike_valueOf (known : Array (Option Graph.Known)) : ∀ {depth d₁ d₂ : Nat} (part : Nat),
    depth ≤ d₁ → depth ≤ d₂ → Alike depth (valueOf known d₁ part) (valueOf known d₂ part) := by
  intro depth
  induction depth with
  | zero =>
      intro d₁ d₂ part _ _
      unfold valueOf
      split <;> simp [Alike, null]
  | succ depth ih =>
      intro d₁ d₂ part h₁ h₂
      obtain ⟨d₁, rfl⟩ : ∃ d, d₁ = d + 1 := ⟨d₁ - 1, by omega⟩
      obtain ⟨d₂, rfl⟩ : ∃ d, d₂ = d + 1 := ⟨d₂ - 1, by omega⟩
      unfold valueOf
      split
      · rfl
      · rfl
      · refine List.forall₂_map_left_iff.mpr (List.forall₂_map_right_iff.mpr ?_)
        exact List.forall₂_same.mpr fun e _ => ⟨rfl, ih e.2 (by omega) (by omega)⟩
      · simp [Alike]
      · simp [Alike]
      · rfl
      · rfl

theorem alike_ofText (text : String) {d₁ d₂ : Nat} (h₁ : depth ≤ d₁) (h₂ : depth ≤ d₂) :
    (∃ fault, ofText d₁ text = .error fault ∧ ofText d₂ text = .error fault) ∨
      ∃ x y, ofText d₁ text = .ok x ∧ ofText d₂ text = .ok y ∧ Alike depth x y := by
  unfold ofText
  cases Graph.ofTokens (Token.ofText text) with
  | error fault => exact .inl ⟨fault, rfl, rfl⟩
  | ok g =>
      cases g with
      | none => exact .inr ⟨.null, .null, rfl, rfl, Alike.refl depth .null⟩
      | some g =>
          show (∃ fault, g.findings.map _ = _ ∧ g.findings.map _ = _) ∨
            ∃ x y, g.findings.map _ = _ ∧ g.findings.map _ = _ ∧ _
          cases g.findings with
          | error fault => exact .inl ⟨fault, rfl, rfl⟩
          | ok known => exact .inr ⟨_, _, rfl, rfl, Graph.alike_valueOf known g.root h₁ h₂⟩

/-! ### Overlays -/

theorem EntriesAlike.lookup {a b : List (Atom × Yaml)} (h : EntriesAlike depth a b) (k : Atom) :
    a.lookup k = none ∧ b.lookup k = none ∨
      ∃ x y, a.lookup k = some x ∧ b.lookup k = some y ∧ Alike depth x y := by
  induction h with
  | nil => exact .inl ⟨rfl, rfl⟩
  | cons hentry _ ih =>
      rw [List.lookup_cons, List.lookup_cons, hentry.1]
      split
      · exact .inr ⟨_, _, rfl, rfl, hentry.2⟩
      · exact ih

theorem EntriesAlike.putField {a b : List (Atom × Yaml)} (h : EntriesAlike depth a b) (k : Atom)
    {x y : Yaml} (hvalue : Alike depth x y) :
    EntriesAlike depth (putField k x a) (putField k y b) := by
  induction h with
  | nil => exact .cons ⟨rfl, hvalue⟩ .nil
  | cons hentry hrest ih =>
      unfold RetrievalTelemetry.putField
      rw [hentry.1]
      split
      · exact .cons ⟨rfl, hvalue⟩ hrest
      · exact .cons hentry ih

theorem alike_overlayOn
    (ih : ∀ {x y : Yaml} (top : Yaml), Alike depth x y → Alike depth (overlay x top) (overlay y top))
    {a b : List (Atom × Yaml)} (h : EntriesAlike depth a b) (entry : Atom × Yaml) :
    Alike depth (overlayOn (a.lookup entry.1) entry.2) (overlayOn (b.lookup entry.1) entry.2) := by
  rcases h.lookup entry.1 with ⟨ha, hb⟩ | ⟨x, y, ha, hb, hxy⟩
  · rw [ha, hb]
    exact Alike.refl depth entry.2
  · rw [ha, hb]
    exact ih entry.2 hxy

theorem EntriesAlike.overlayEntries_of
    (ih : ∀ {x y : Yaml} (top : Yaml), Alike depth x y → Alike depth (overlay x top) (overlay y top))
    (top : List (Atom × Yaml)) : ∀ {a b : List (Atom × Yaml)}, EntriesAlike depth a b →
      EntriesAlike depth (overlayEntries a top) (overlayEntries b top) := by
  induction top with
  | nil => exact fun h => h
  | cons entry rest hrest =>
      intro a b h
      rw [overlayEntries_cons, overlayEntries_cons]
      exact hrest (h.putField entry.1 (alike_overlayOn ih h entry))

/-- A value laid over two that are the same to a depth. -/
theorem Alike.overlay : ∀ {depth : Nat} {x y : Yaml} (top : Yaml), Alike depth x y →
    Alike depth (overlay x top) (overlay y top) := by
  intro depth
  induction depth with
  | zero =>
      intro x y top h
      cases top <;> cases x <;> cases y <;> simp_all [Alike, Yaml.overlay]
  | succ depth ih =>
      intro x y top h
      cases top with
      | mapping top =>
          cases x with
          | mapping a =>
              cases y with
              | mapping b => exact EntriesAlike.overlayEntries_of ih top h
              | atom | sequence | set => exact h.elim
          | atom | sequence | set =>
              cases y with
              | mapping => exact h.elim
              | atom | sequence | set => exact Alike.refl ..
      | atom | sequence | set => simp [Alike, Yaml.overlay]

theorem EntriesAlike.overlayEntries {a b : List (Atom × Yaml)} (h : EntriesAlike depth a b)
    (top : List (Atom × Yaml)) :
    EntriesAlike depth (overlayEntries a top) (overlayEntries b top) :=
  EntriesAlike.overlayEntries_of Alike.overlay top h

end RetrievalTelemetry.Yaml
