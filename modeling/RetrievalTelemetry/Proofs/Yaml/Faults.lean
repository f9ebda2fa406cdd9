/-
What can be wrong with a document without tags.

Without tags a collection is what it looks like, and a single value is a text or has the kind that
its form tells.  Finding the values keeps it so: merging rewrites the entries of mappings only, and
a key that would stand for the value of its mapping becomes a text.  So whatever is met is read
under a tag of its own, and of the faults that nobody expects only those of size and depth remain.
-/
import RetrievalTelemetry.Proofs.Yaml.PlainText
import RetrievalTelemetry.Yaml.Graph.Value

namespace RetrievalTelemetry.Yaml

/-- Whether a part is of the kind that it would have without a tag. -/
def Part.isUntagged (p : Part) : Bool :=
  match p.content with
  | .scalar shown _ =>
    p.tag = .text || (p.tag = .ofPlain shown && shown.toList.getLast? ≠ some '\n')
  | .sequence _ => p.tag = .sequence
  | .mapping _ => p.tag = .mapping

namespace Graph

/-- Whether all parts are of the kinds that they would have without tags. -/
def Untagged (parts : Parts) : Prop :=
  ∀ (i : Nat) (p : Part), parts[i]? = some p → p.isUntagged = true

/-! ### Merging -/

theorem Untagged.modify {parts : Parts} (h : Untagged parts) {part : Nat} {change : Part → Part}
    (hchange : ∀ p, parts[part]? = some p → (change p).isUntagged = true) :
    Untagged (parts.modify part change) := by
  intro i p hp
  rw [Array.getElem?_modify] at hp
  split at hp
  · rename_i hi
    obtain ⟨q, hq, rfl⟩ := Option.map_eq_some_iff.mp hp
    exact hchange q (hi ▸ hq)
  · exact h i p hp

/-- A mapping may get other entries. -/
theorem Untagged.withEntries {parts : Parts} (h : Untagged parts) {part : Nat}
    (hmapping : hasTag parts .mapping part = true) (entries : Entries) :
    Untagged (withEntries parts part entries) := by
  refine h.modify fun p hp => ?_
  unfold hasTag at hmapping
  rw [hp] at hmapping
  exact decide_eq_true (eq_of_beq hmapping)

theorem Untagged.valueKeyAsText {parts : Parts} (h : Untagged parts) (key : Nat) :
    Untagged (valueKeyAsText parts key) := by
  refine h.modify fun p hp => ?_
  have hp := h key p hp
  split
  · rename_i hvalue
    unfold Part.isUntagged at hp ⊢
    rw [hvalue] at hp
    cases hcontent : p.content with
    | scalar => simp
    | sequence | mapping =>
        rw [hcontent] at hp
        cases hp
  · exact hp

theorem hasTag_mapping_of_entries {parts : Parts} (h : Untagged parts) {part : Nat}
    {entries : Entries} (hentries : entries? parts part = some entries) :
    hasTag parts .mapping part = true := by
  unfold entries? at hentries
  split at hentries
  · rename_i tag es hpart
    have hp := h part _ hpart
    unfold hasTag
    rw [hpart]
    have htag : tag = .mapping := of_decide_eq_true hp
    rw [htag]
    rfl
  · cases hentries

/-- Nothing has got a tag, and mappings are still mappings. -/
structure Kept (parts parts' : Parts) : Prop where
  untagged : Untagged parts'
  mapping : ∀ i, hasTag parts .mapping i = true → hasTag parts' .mapping i = true

theorem Kept.refl {parts : Parts} (h : Untagged parts) : Kept parts parts := ⟨h, fun _ => id⟩

theorem Kept.trans {a b c : Parts} (h : Kept a b) (h' : Kept b c) : Kept a c :=
  ⟨h'.untagged, fun i hi => h'.mapping i (h.mapping i hi)⟩

theorem hasTag_modify {parts : Parts} {part : Nat} {change : Part → Part} {tag : Tag}
    (hchange : ∀ p, p.tag = tag → (change p).tag = tag) (i : Nat)
    (h : hasTag parts tag i = true) : hasTag (parts.modify part change) tag i = true := by
  unfold hasTag at h ⊢
  rw [Array.getElem?_modify]
  cases hp : parts[i]? with
  | none =>
      rw [hp] at h
      cases h
  | some p =>
      rw [hp] at h
      split
      · exact beq_iff_eq.mpr (hchange p (eq_of_beq h))
      · exact h

theorem kept_withEntries {parts : Parts} (h : Untagged parts) {part : Nat}
    (hmapping : hasTag parts .mapping part = true) (entries : Entries) :
    Kept parts (withEntries parts part entries) :=
  ⟨h.withEntries hmapping entries, hasTag_modify fun _ => id⟩

theorem kept_valueKeyAsText {parts : Parts} (h : Untagged parts) (key : Nat) :
    Kept parts (valueKeyAsText parts key) := by
  refine ⟨h.valueKeyAsText key, hasTag_modify fun p hp => ?_⟩
  rw [if_neg (by rw [hp]; decide)]
  exact hp

theorem kept_valueKeysAsText (keys : List Nat) : ∀ {parts : Parts}, Untagged parts →
    Kept parts (keys.foldl valueKeyAsText parts) := by
  induction keys with
  | nil => exact Kept.refl
  | cons key keys ih =>
      intro parts h
      have hkey := kept_valueKeyAsText h key
      exact hkey.trans (ih hkey.untagged)

/-- A call that gives entries and keeps the parts. -/
abbrev Keeps (parts : Parts) {α : Type} (x : Except Fault (α × Parts)) : Prop :=
  Ends (fun r => Kept parts r.2) x

theorem keeps_askFor {one : Parts → Nat → Except Fault (Entries × Parts)}
    (hone : ∀ {parts} part, Untagged parts → Keeps parts (one parts part)) {parts : Parts}
    (state : Entries × Parts) (asking : Nat × Nat) (h : Kept parts state.2) :
    Keeps parts (merged.askFor one state asking) := by
  have hafter : ∀ {parts'} part, Kept parts parts' → Keeps parts (one parts' part) := by
    intro parts' part h'
    have := hone part h'.untagged
    cases hresult : one parts' part with
    | error fault =>
        rw [hresult] at this
        exact this
    | ok r =>
        rw [hresult] at this
        exact h'.trans this
  unfold merged.askFor
  dsimp only
  split
  · refine Ends.bind (Ends.foldlM (I := fun s : List Entries × Parts => Kept parts s.2) ?_ _ _ h)
      fun r hr => hr
    intro s item hs
    exact (hafter item hs).bind fun r hr => hr
  · exact (hafter asking.2 h).bind fun r hr => hr

/-- Merging keeps the parts. -/
theorem keeps_merged : ∀ (fuel : Nat) {parts : Parts} (part : Nat), Untagged parts →
    Keeps parts (merged fuel parts part) := by
  intro fuel
  induction fuel with
  | zero => exact fun _ _ => .inr (.inr rfl)
  | succ fuel ih =>
      intro parts part h
      unfold merged
      split
      · exact .inl rfl
      · rename_i entries hentries
        have hmapping := hasTag_mapping_of_entries h hentries
        dsimp only
        have hstart := kept_withEntries h hmapping
          (entries.partition fun entry => hasTag parts .merge entry.1).2
        refine Ends.bind (Ends.foldlM (I := fun s : Entries × Parts => Kept parts s.2)
          (fun s asking hs => keeps_askFor ih s asking hs) _ _
          (hstart.trans (kept_valueKeysAsText _ hstart.untagged))) fun r hr => ?_
        exact hr.trans (kept_withEntries hr.untagged (hr.mapping part hmapping) _)

/-! ### Values -/

namespace Finder

/-- The single value of a part without a tag. -/
theorem reads_atomOf {parts : Parts} (h : Untagged parts) {part : Nat} {p : Part}
    (hp : parts[part]? = some p)
    (hsingle : [Tag.sequence, .orderedMap, .pairs, .mapping, .set].contains p.tag = false) :
    Meaning.Reads (atomOf parts p.tag part) := by
  have hform := h part p hp
  obtain ⟨tag, content⟩ := p
  cases content with
  | sequence items =>
      rw [show tag = .sequence from of_decide_eq_true hform] at hsingle
      cases hsingle
  | mapping entries =>
      rw [show tag = .mapping from of_decide_eq_true hform] at hsingle
      cases hsingle
  | scalar shown isGarbled =>
      have hentries : entries? parts part = none := by
        unfold entries?
        rw [hp]
      unfold atomOf textOf
      rw [hp, hentries]
      show Meaning.Reads (if _ then _ else if _ then _ else Tag.meaning tag shown)
      rw [if_neg (by simp)]
      split
      · trivial
      · unfold Part.isUntagged at hform
        rw [Bool.or_eq_true, Bool.and_eq_true, decide_eq_true_eq, decide_eq_true_eq,
          decide_eq_true_eq] at hform
        rcases hform with rfl | ⟨rfl, hend⟩
        · trivial
        · exact reads_meaning_ofPlain hend

/-- A finder leaves the parts without tags, and ends with nothing worse than an expected fault. -/
def Sound {α : Type} (find : Finder α) : Prop :=
  ∀ f, Untagged f.parts → Ends (fun r => Untagged r.2.parts) (find f)

theorem Sound.pure {α : Type} (a : α) : Sound (pure a) := fun _ h => h

theorem Sound.throw {α : Type} : Sound (throw .malformed : Finder α) := fun _ _ => .inl rfl

theorem Sound.bind {α β : Type} {x : Finder α} {k : α → Finder β} (hx : Sound x)
    (hk : ∀ a, Sound (k a)) : Sound (x >>= k) :=
  fun f h => (hx f h).bind fun r hr => hk r.1 r.2 hr

/-- What is asked of the findings may depend on them. -/
theorem Sound.get {β : Type} {k : Findings → Finder β}
    (hk : ∀ f, Untagged f.parts → Sound (k f)) : Sound (get >>= k) :=
  fun f h => hk f h f h

theorem Sound.modify {change : Findings → Findings}
    (h : ∀ f, Untagged f.parts → Untagged (change f).parts) : Sound (modify change) := h

theorem Sound.lift {α β : Type} {x : Except Fault α} {k : α → Finder β} {P : α → Prop}
    (hx : Ends P x) (hk : ∀ a, P a → Sound (k a)) : Sound (liftM x >>= k) := by
  intro f h
  cases x with
  | error fault => exact hx
  | ok a => exact hk a hx f h

theorem Sound.forM {α : Type} {find : α → Finder Unit} (h : ∀ a, Sound (find a)) (l : List α) :
    Sound (l.forM find) := by
  induction l with
  | nil => exact Sound.pure ()
  | cons a l ih => exact (h a).bind fun _ => ih

theorem Sound.mapM {α β : Type} {find : α → Finder β} (h : ∀ a, Sound (find a)) (l : List α) :
    Sound (l.mapM find) := by
  induction l with
  | nil => exact Sound.pure []
  | cons a l ih =>
      rw [List.mapM_cons]
      exact (h a).bind fun b => ih.bind fun bs => Sound.pure _

theorem sound_known (part : Nat) : Sound (known? part) := Sound.get fun _ _ => Sound.pure _

theorem sound_learn (part : Nat) (known : Known) : Sound (learn part known) :=
  Sound.modify fun _ h => h

theorem sound_meetPart (part : Nat) : Sound (meetPart part) := by
  unfold meetPart
  refine Sound.get fun f hf => (sound_known part).bind fun known => ?_
  split
  · rename_i p hp
    split
    · exact (sound_learn part .pending).bind fun _ => Sound.modify fun _ h => h
    · rename_i hsingle
      exact Sound.lift (reads_atomOf hf hp (by simpa using hsingle)) fun a _ =>
        sound_learn part (.atom a)
  · exact Sound.pure ()

theorem sound_meetEntry (entry : Nat × Nat) : Sound (meetEntry entry) := by
  unfold meetEntry
  refine (sound_meetPart entry.1).bind fun _ => (sound_known entry.1).bind fun known => ?_
  split
  · exact (sound_meetPart entry.2).bind fun _ => Sound.get fun _ _ => Sound.pure _
  · exact Sound.throw

theorem sound_meetEntries (part : Nat) : Sound (meetEntries part) := by
  unfold meetEntries
  refine Sound.get fun f hf => Sound.lift (keeps_merged _ part hf) fun r hr => ?_
  exact (Sound.modify fun _ _ => hr.untagged).bind fun _ => Sound.mapM sound_meetEntry _

theorem sound_meetPair (part : Nat) : Sound (meetPair part) := by
  unfold meetPair
  refine Sound.get fun f _ => ?_
  split
  · rename_i entry _
    exact (sound_meetPart entry.1).bind fun _ => (sound_meetPart entry.2).bind fun _ =>
      Sound.pure _
  · exact Sound.throw

theorem sound_meetMembers (part : Nat) : Sound (meetMembers part) := by
  unfold meetMembers
  refine Sound.get fun f _ => ?_
  split
  · exact (sound_meetEntries part).bind fun _ => sound_learn part _
  · exact (sound_meetEntries part).bind fun _ => sound_learn part _
  · exact (Sound.forM sound_meetPart _).bind fun _ => sound_learn part _
  · exact (Sound.mapM sound_meetPair _).bind fun _ => sound_learn part _
  · exact (Sound.mapM sound_meetPair _).bind fun _ => sound_learn part _
  · exact Sound.throw

theorem sound_meetLayers : ∀ fuel : Nat, Sound (meetLayers fuel) := by
  intro fuel
  induction fuel with
  | zero => exact Sound.pure ()
  | succ fuel ih =>
      unfold meetLayers
      refine Sound.get fun f _ => ?_
      split
      · refine Sound.bind ?_ fun _ => (Sound.forM sound_meetMembers _).bind fun _ => ih
        exact Sound.modify fun _ h => h
      · exact Sound.pure ()

end Finder

/-- The values of a document without tags are found, but for faults that are expected. -/
theorem ends_findings {g : Graph} (h : Untagged g.parts) : Meaning.Reads g.findings := by
  have hfind : Finder.Sound (do
      Finder.meetPart g.root
      Finder.meetLayers (g.parts.size + 1)) :=
    (Finder.sound_meetPart g.root).bind fun _ => Finder.sound_meetLayers _
  unfold findings
  exact (hfind _ h).bind fun _ _ => trivial

end Graph

theorem reads_ofText {text : String} {g : Graph}
    (hg : Graph.ofTokens (Token.ofText text) = .ok (some g)) (h : Graph.Untagged g.parts)
    (depth : Nat) : Meaning.Reads (ofText depth text) := by
  unfold ofText
  rw [hg]
  exact Ends.map _ (Graph.ends_findings h)

end RetrievalTelemetry.Yaml
