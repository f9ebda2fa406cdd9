/-
What lies where when one value is laid over another.

Keys are told apart by what they denote, so being the same key is an equivalence, and a mapping is
read by any of the keys that are the same.  From there the overlay is read along paths: at a path
that the value on top binds, what it binds lies over what was there; at a path that it does not
touch, everything stays; and a path that neither binds is not bound.
-/
import RetrievalTelemetry.Proofs.Binary64.Order
import RetrievalTelemetry.Yaml.Overlay

namespace RetrievalTelemetry

/-! ### Keys -/

theorem Binary64.eq_nan_of_isNaN {x : Binary64} (h : x.isNaN = true) : x = .nan := by
  cases x with
  | nan => rfl
  | infinity | finite => cases h

namespace Number

/-- The place of a number among the rationals and the two infinities; a NaN has none. -/
def place : Number → Option (WithBot (WithTop Rat))
  | int n => some (((n : Rat) : WithTop Rat) : WithBot (WithTop Rat))
  | double x => if x.isNaN then none else some x.rank

theorem compareRat_eq_iff (p q : Rat) : compare?.compareRat p q = .eq ↔ p = q := by
  unfold compare?.compareRat
  rcases lt_trichotomy p q with h | rfl | h
  · simp [h, h.ne]
  · simp
  · simp [h, h.not_gt, h.ne']

theorem place_of_not_isNaN {x : Binary64} (h : x.isNaN = false) :
    (double x).place = some x.rank := if_neg (by simp [h])

theorem double_same_iff (x y : Binary64) :
    (double x).eq (double y) = true ∨ double x = double y
      ↔ (double x).place = (double y).place := by
  cases hx : x.isNaN with
  | true =>
      rw [Binary64.eq_nan_of_isNaN hx]
      cases y <;> simp [eq, compare?, Binary64.compare?, place, Binary64.isNaN]
  | false =>
      cases hy : y.isNaN with
      | true =>
          rw [Binary64.eq_nan_of_isNaN hy]
          cases x <;> simp_all [eq, compare?, Binary64.compare?, place, Binary64.isNaN]
      | false =>
          have heq : (double x).eq (double y) = x.eq y := rfl
          rw [heq, Binary64.eq_iff hx hy, double.injEq, place_of_not_isNaN hx,
            place_of_not_isNaN hy, Option.some.injEq]
          exact or_iff_left_of_imp (congrArg Binary64.rank)

/-- Numbers are the same key when they have the same place. -/
theorem same_iff (m n : Number) : m.eq n = true ∨ m = n ↔ m.place = n.place := by
  cases m with
  | int a =>
      cases n with
      | int b => simp [eq, compare?, place]
      | double y =>
          cases y with
          | nan => simp [eq, compare?, place, Binary64.isNaN]
          | infinity s => cases s <;> simp [eq, compare?, place, Binary64.isNaN, Binary64.rank]
          | finite => simp [eq, compare?, place, Binary64.isNaN, Binary64.rank, compareRat_eq_iff]
  | double x =>
      cases n with
      | int b =>
          cases x with
          | nan => simp [eq, compare?, place, Binary64.isNaN]
          | infinity s => cases s <;> simp [eq, compare?, place, Binary64.isNaN, Binary64.rank]
          | finite => simp [eq, compare?, place, Binary64.isNaN, Binary64.rank, compareRat_eq_iff]
      | double y => exact double_same_iff x y

end Number

namespace Yaml

/-- What a key denotes. -/
inductive Denoted where
  | null
  | number (place : Option (WithBot (WithTop Rat)))
  | text (value : String)
  | garbled (shown : String)
  | bytes (value : List UInt8)
  | date (value : CalendarDate)
  /-- An instant, or the hands of a clock if it is not known where it hangs. -/
  | instant (micros : Int) (isKnown : Bool)

namespace Moment

/-- The microseconds since 1970, and whether they are counted from the same instant everywhere. -/
def instant (m : Moment) : Int × Bool :=
  match m.offset with
  | none => (m.wall, false)
  | some minutes => (m.wall - minutes * 60000000, true)

theorem same_iff (m n : Moment) : m.same n = true ↔ m.instant = n.instant := by
  unfold same instant
  cases m.offset <;> cases n.offset <;> simp

end Moment

namespace Atom

def denoted : Atom → Denoted
  | null => .null
  | bool b => .number (Number.int (if b then 1 else 0)).place
  | number n => .number n.place
  | text s => .text s
  | garbled s => .garbled s
  | bytes b => .bytes b
  | date d => .date d
  | moment m => .instant m.instant.1 m.instant.2

/-- Keys are the same when they denote the same. -/
theorem beq_iff {a b : Atom} : (a == b) = true ↔ a.denoted = b.denoted := by
  show a.same b = true ↔ _
  cases a <;> cases b <;>
    simp [same, denoted, number?, ← Number.same_iff, Moment.same_iff, Prod.ext_iff]

instance : EquivBEq Atom where
  rfl := beq_iff.mpr rfl
  symm h := beq_iff.mpr (beq_iff.mp h).symm
  trans h k := beq_iff.mpr ((beq_iff.mp h).trans (beq_iff.mp k))

end Atom

end Yaml

/-! ### Entries -/

section Entries

variable {α β : Type} [BEq α] [EquivBEq α]

theorem lookup_congr {k l : α} (h : (k == l) = true) (entries : List (α × β)) :
    entries.lookup k = entries.lookup l := by
  induction entries with
  | nil => rfl
  | cons entry entries ih => rw [List.lookup_cons, List.lookup_cons, BEq.congr_left h, ih]

theorem lookup_putField (k key : α) (value : β) (entries : List (α × β)) :
    (putField key value entries).lookup k = if k == key then some value else entries.lookup k := by
  induction entries with
  | nil =>
      show List.lookup k [(key, value)] = _
      rw [List.lookup_cons]
      cases k == key <;> rfl
  | cons entry entries ih =>
      unfold putField
      split
      · rename_i hkey
        rw [List.lookup_cons, List.lookup_cons, BEq.congr_right hkey]
        cases k == key <;> rfl
      · rename_i hkey
        rw [List.lookup_cons, List.lookup_cons, ih]
        cases hk : k == entry.1 with
        | false => rfl
        | true =>
            have hne : (k == key) = false := by
              rw [BEq.congr_left hk]
              simpa using hkey
            rw [hne]
            rfl

/-- Whether all keys of a mapping are different. -/
def keysDiffer : List (α × β) → Bool
  | [] => true
  | entry :: entries => entries.all (fun e => !(entry.1 == e.1)) && keysDiffer entries

omit [EquivBEq α] in
theorem lookup_eq_none_of_all_differ {k : α} {entries : List (α × β)}
    (h : entries.all (fun e => !(k == e.1)) = true) : entries.lookup k = none := by
  induction entries with
  | nil => rfl
  | cons entry entries ih =>
      rw [List.all_cons, Bool.and_eq_true, Bool.not_eq_true'] at h
      rw [List.lookup_cons, h.1, ih h.2]

end Entries

namespace Yaml

/-! ### One step -/

/-- A value laid over what there is, if there is anything. -/
def overlayOn (below : Option Yaml) (value : Yaml) : Yaml := below.elim value (overlay · value)

def isMapping : Yaml → Bool
  | mapping _ => true
  | _ => false

theorem overlayEntries_cons (base : List (Atom × Yaml)) (entry : Atom × Yaml)
    (rest : List (Atom × Yaml)) :
    overlayEntries base (entry :: rest)
      = overlayEntries (putField entry.1 (overlayOn (base.lookup entry.1) entry.2) base) rest := by
  unfold overlayOn
  cases h : base.lookup entry.1 <;> simp [overlayEntries, h]

theorem lookup_overlayEntries (k : Atom) (top : List (Atom × Yaml)) :
    ∀ (base : List (Atom × Yaml)), keysDiffer top = true →
      (overlayEntries base top).lookup k =
        match top.lookup k with
        | none => base.lookup k
        | some value => some (overlayOn (base.lookup k) value) := by
  induction top with
  | nil => exact fun _ _ => rfl
  | cons entry rest ih =>
      obtain ⟨key, value⟩ := entry
      intro base htop
      obtain ⟨hkey, hrest⟩ := Bool.and_eq_true_iff.mp htop
      rw [overlayEntries_cons, ih _ hrest, lookup_putField, List.lookup_cons]
      cases hk : k == key with
      | true =>
          -- The rest does not bind this key again.
          rw [lookup_congr hk rest, lookup_eq_none_of_all_differ hkey, lookup_congr hk base]
          rfl
      | false => rfl

/-! ### Paths -/

/-- What a value binds at a path of keys. -/
def at? : (path : List Atom) → Yaml → Option Yaml
  | [], value => some value
  | key :: path, value => (value.get? key).bind (at? path)

mutual

/-- Whether the keys of every mapping differ, at every depth. -/
def isSettled : Yaml → Bool
  | mapping entries => keysDiffer entries && allSettled entries
  | _ => true

/-- Whether the values of all entries are settled. -/
def allSettled : List (Atom × Yaml) → Bool
  | [] => true
  | (_, value) :: rest => isSettled value && allSettled rest

end

theorem isSettled_of_lookup {k : Atom} {value : Yaml} {entries : List (Atom × Yaml)}
    (h : allSettled entries = true) (hk : entries.lookup k = some value) :
    value.isSettled = true := by
  induction entries with
  | nil => cases hk
  | cons entry entries ih =>
      obtain ⟨hentry, hentries⟩ := Bool.and_eq_true_iff.mp h
      rw [List.lookup_cons] at hk
      split at hk
      · exact Option.some.inj hk ▸ hentry
      · exact ih hentries hk

/-- One step of a path into an overlay of two mappings. -/
theorem at?_overlay_cons {k : Atom} {path : List Atom} {base top : List (Atom × Yaml)}
    (h : (mapping top).isSettled = true) :
    at? (k :: path) (overlay (mapping base) (mapping top)) =
      match top.lookup k with
      | none => at? (k :: path) (mapping base)
      | some value => at? path (overlayOn (base.lookup k) value) := by
  have hstep := lookup_overlayEntries k top base (Bool.and_eq_true_iff.mp h).1
  show ((overlayEntries base top).lookup k).bind (at? path) = _
  rw [hstep]
  cases top.lookup k <;> rfl

/-- Over anything but a mapping the value on top stays as it is. -/
theorem overlay_of_not_isMapping {base : Yaml} (h : base.isMapping = false) (top : Yaml) :
    overlay base top = top := by
  cases top with
  | mapping =>
      cases base with
      | mapping => cases h
      | atom | sequence | set => rfl
  | atom | sequence | set => rfl

theorem overlay_of_top_not_isMapping {top : Yaml} (h : top.isMapping = false) (base : Yaml) :
    overlay base top = top := by
  cases top with
  | mapping => cases h
  | atom | sequence | set => rfl

/-- What the value on top binds at a path lies over what was there. -/
theorem at?_overlay_of_some (path : List Atom) :
    ∀ {base top value : Yaml}, top.isSettled = true → at? path top = some value →
      at? path (overlay base top) = some (overlayOn (at? path base) value) := by
  induction path with
  | nil =>
      intro base top value _ h
      cases h
      rfl
  | cons k path ih =>
      intro base top value hs h
      cases top with
      | atom | sequence | set => cases h
      | mapping top =>
          obtain ⟨v, hv, hvalue⟩ := Option.bind_eq_some_iff.mp h
          cases base with
          | mapping base =>
              rw [at?_overlay_cons hs, show top.lookup k = some v from hv]
              have hsv := isSettled_of_lookup (Bool.and_eq_true_iff.mp hs).2 hv
              show at? path (overlayOn (base.lookup k) v)
                = some (overlayOn ((base.lookup k).bind (at? path)) value)
              cases base.lookup k with
              | none => exact hvalue
              | some old => exact ih hsv hvalue
          | atom | sequence | set => exact h

/-- A value binds nothing at a path, and nothing but mappings on the way to it. -/
structure Untouched (path : List Atom) (value : Yaml) : Prop where
  unbound : at? path value = none
  way : ∀ q v, q <+: path → q ≠ path → at? q value = some v → v.isMapping = true

theorem Untouched.of_cons {k : Atom} {path : List Atom} {entries : List (Atom × Yaml)} {v : Yaml}
    (h : Untouched (k :: path) (mapping entries)) (hv : entries.lookup k = some v) :
    Untouched path v := by
  have hbelow : ∀ q, at? (k :: q) (mapping entries) = at? q v := fun q =>
    congrArg (·.bind (at? q)) hv
  refine ⟨hbelow path ▸ h.unbound, fun q w hq hne hw => ?_⟩
  refine h.way (k :: q) w (List.cons_prefix_cons.mpr ⟨rfl, hq⟩) ?_ (hbelow q ▸ hw)
  exact fun heq => hne (List.cons.inj heq).2

/-- What the value on top does not touch stays as it is. -/
theorem at?_overlay_of_untouched (path : List Atom) :
    ∀ {base top : Yaml}, top.isSettled = true → Untouched path top →
      at? path (overlay base top) = at? path base := by
  induction path with
  | nil =>
      intro base top _ h
      cases h.unbound
  | cons k path ih =>
      intro base top hs h
      have htop : top.isMapping = true :=
        h.way [] top (List.nil_prefix ..) (List.cons_ne_nil _ _).symm rfl
      cases top with
      | atom | sequence | set => cases htop
      | mapping top =>
          cases base with
          | atom | sequence | set => exact h.unbound
          | mapping base =>
              rw [at?_overlay_cons hs]
              cases hv : top.lookup k with
              | none => rfl
              | some v =>
                  have hsv := isSettled_of_lookup (Bool.and_eq_true_iff.mp hs).2 hv
                  have hbelow := h.of_cons hv
                  show at? path (overlayOn (base.lookup k) v) = (base.lookup k).bind (at? path)
                  cases base.lookup k with
                  | none => exact hbelow.unbound
                  | some old => exact ih hsv hbelow

/-- A path that is bound in the end is bound below or on top. -/
theorem isSome_at?_of_overlay (path : List Atom) :
    ∀ {base top : Yaml}, top.isSettled = true → (at? path (overlay base top)).isSome = true →
      (at? path base).isSome = true ∨ (at? path top).isSome = true := by
  induction path with
  | nil => exact fun _ _ => .inl rfl
  | cons k path ih =>
      intro base top hs h
      cases top with
      | atom | sequence | set => cases h
      | mapping top =>
          cases base with
          | atom | sequence | set => exact .inr h
          | mapping base =>
              rw [at?_overlay_cons hs] at h
              cases hv : top.lookup k with
              | none => exact .inl (by rwa [hv] at h)
              | some v =>
                  have hsv := isSettled_of_lookup (Bool.and_eq_true_iff.mp hs).2 hv
                  rw [hv] at h
                  show ((base.lookup k).bind (at? path)).isSome = true
                    ∨ ((top.lookup k).bind (at? path)).isSome = true
                  rw [hv]
                  cases hold : base.lookup k with
                  | none => exact .inr (by rwa [hold] at h)
                  | some old => exact ih hsv (by rwa [hold] at h)

/-- How the paths into a value come from two others, of which the one on top goes first. -/
structure Resolves (base top result : Yaml) : Prop where
  /-- What is no mapping on top is there in the end. -/
  value_of_top : ∀ path value, at? path top = some value → value.isMapping = false →
    at? path result = some value
  /-- What the top does not touch stays. -/
  of_base : ∀ path, Untouched path top → at? path result = at? path base
  /-- A mapping on top of anything else is there as it is. -/
  mapping_of_top : ∀ path value, at? path top = some value → value.isMapping = true →
    (∀ old, at? path base = some old → old.isMapping = false) → at? path result = some value
  /-- Nothing else is there. -/
  bound : ∀ path, (at? path result).isSome = true →
    (at? path base).isSome = true ∨ (at? path top).isSome = true

theorem resolves_overlay (base : Yaml) {top : Yaml} (h : top.isSettled = true) :
    Resolves base top (overlay base top) where
  value_of_top path value htop hvalue := by
    rw [at?_overlay_of_some path h htop]
    cases at? path base with
    | none => rfl
    | some old => exact congrArg some (overlay_of_top_not_isMapping hvalue old)
  of_base path := at?_overlay_of_untouched path h
  mapping_of_top path value htop _ hbase := by
    rw [at?_overlay_of_some path h htop]
    cases hold : at? path base with
    | none => rfl
    | some old => exact congrArg some (overlay_of_not_isMapping (hbase old hold) value)
  bound path := isSome_at?_of_overlay path h

end Yaml

end RetrievalTelemetry
