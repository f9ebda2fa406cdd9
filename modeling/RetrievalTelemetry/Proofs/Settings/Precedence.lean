/-
Which source a setting comes from.

The sources are laid over each other, the file first, then the environment, then the command line.
What is validated in the end is resolved path by path: what the command line gives is there, the
place of the database comes from the environment if that names one, and everything else is as in
the file.

A file may hold more than settings can be deep.  What lies deeper is not looked at, so the file may
be taken to any depth from that of the settings on.
-/
import RetrievalTelemetry.Proofs.Yaml.Depth
import RetrievalTelemetry.Settings.Load

namespace RetrievalTelemetry.Settings

open Yaml (Atom Alike EntriesAlike at? Untouched)

/-! ### What validation looks at -/

section Depth

variable {depth : Nat} {e f : Entries}

theorem onlyNames_congr (h : EntriesAlike depth e f) (names : List String) :
    onlyNames names e = onlyNames names f := by
  have hproblems : (e.filterMap fun entry =>
        (strangeKey names entry.1).map fun cause => ({ path := [entry.1.step], cause } : Problem))
      = f.filterMap fun entry =>
        (strangeKey names entry.1).map fun cause => { path := [entry.1.step], cause } := by
    induction h with
    | nil => rfl
    | cons hentry _ ih => rw [List.filterMap_cons, List.filterMap_cons, hentry.1, ih]
  unfold onlyNames
  rw [hproblems]

theorem field_congr {α : Type} (h : EntriesAlike depth e f) (name : String) (usual : α)
    (check : Scalar → Checked α) : field name usual check e = field name usual check f := by
  unfold field
  rcases h.lookup (.text name) with ⟨he, hf⟩ | ⟨x, y, he, hf, hxy⟩
  · rw [he, hf]
  · rw [he, hf]
    dsimp only
    rw [hxy.scalar]

/-- A section is looked at one step deep. -/
theorem mappingOf_congr {α : Type} {model : String} {names : List String}
    {check : Entries → Checked α}
    (hcheck : ∀ {e f}, EntriesAlike depth e f → check e = check f) {x y : Yaml}
    (h : Alike (depth + 1) x y) :
    mappingOf model names check x = mappingOf model names check y := by
  cases x with
  | mapping e =>
      cases y with
      | mapping f =>
          show (fun a _ => a) <$> check e <*> onlyNames names e
            = (fun a _ => a) <$> check f <*> onlyNames names f
          rw [hcheck h, onlyNames_congr h]
      | atom | sequence | set => exact h.elim
  | atom | sequence | set =>
      cases y with
      | mapping => exact h.elim
      | atom | sequence | set => rfl

theorem part_congr {α : Type} (h : EntriesAlike depth e f) (name : String) (usual : α)
    {check : Yaml → Checked α} (hcheck : ∀ {x y}, Alike depth x y → check x = check y) :
    part name usual check e = part name usual check f := by
  unfold part
  rcases h.lookup (.text name) with ⟨he, hf⟩ | ⟨x, y, he, hf, hxy⟩
  · rw [he, hf]
  · rw [he, hf]
    dsimp only
    rw [hcheck hxy]

/-- Validation looks no deeper than the settings of a section. -/
theorem check_congr (h : EntriesAlike 1 e f) : check e = check f := by
  have hserver : ∀ {x y}, Alike 1 x y → serverOf x = serverOf y :=
    mappingOf_congr fun h => by simp only [field_congr h]
  have hdatabase : ∀ {x y}, Alike 1 x y → databaseOf x = databaseOf y :=
    mappingOf_congr fun h => by simp only [field_congr h]
  have haggregation : ∀ {x y}, Alike 1 x y → aggregationOf x = aggregationOf y :=
    mappingOf_congr fun h => by simp only [field_congr h]
  have hproviders : ∀ {x y}, Alike 1 x y → providersOf x = providersOf y :=
    mappingOf_congr fun h => by simp only [field_congr h]
  have hmetrics : ∀ {x y}, Alike 1 x y → metricsOf x = metricsOf y :=
    mappingOf_congr fun h => by simp only [field_congr h]
  have hlogging : ∀ {x y}, Alike 1 x y → loggingOf x = loggingOf y :=
    mappingOf_congr fun h => by simp only [field_congr h]
  unfold check
  rw [onlyNames_congr h, part_congr h "server" _ hserver, part_congr h "database" _ hdatabase,
    part_congr h "aggregation" _ haggregation, part_congr h "providers" _ hproviders,
    part_congr h "metrics" _ hmetrics, part_congr h "logging" _ hlogging]

theorem ofEntries_congr (h : EntriesAlike 1 e f) : ofEntries e = ofEntries f := by
  have hnamed : ∀ {depth} {e f : Entries}, EntriesAlike depth e f →
      e.all (fun entry => isNamed entry.1) = f.all fun entry => isNamed entry.1 := by
    intro depth e f h
    induction h with
    | nil => rfl
    | cons hentry _ ih => rw [List.all_cons, List.all_cons, hentry.1, ih]
  unfold ofEntries
  rw [check_congr h, hnamed h]

end Depth

theorem alike_entriesTo {file : SettingsFile} {d : Nat} (hd : depth ≤ d) {entries : Entries}
    (h : entriesTo d file = .ok entries) :
    ∃ shallow, fileEntries file = .ok shallow ∧ EntriesAlike 1 shallow entries := by
  unfold fileEntries entriesTo at *
  dsimp only at h ⊢
  cases htext : file.text with
  | none =>
      rw [htext] at h
      cases h
  | some text =>
      rw [htext] at h
      dsimp only at h ⊢
      rcases Yaml.alike_ofText text (Nat.le_refl depth) hd with
        ⟨fault, _, hf⟩ | ⟨x, y, hx, hy, hxy⟩
      · rw [hf] at h
        cases h
      · rw [hy] at h
        rw [hx]
        dsimp only at h ⊢
        rw [show x.isVoid = y.isVoid from hxy.isVoid]
        split at h
        · rename_i hvoid
          rw [if_pos hvoid]
          exact ⟨[], rfl, Except.ok.inj h ▸ .nil⟩
        · rename_i hvoid
          rw [if_neg hvoid]
          cases y with
          | mapping b =>
              cases x with
              | mapping a => exact ⟨a, rfl, Except.ok.inj h ▸ hxy⟩
              | atom | sequence | set => exact hxy.elim
          | atom | sequence | set => cases h

/-- However deep the file is taken, what is validated is it with the other sources over it. -/
theorem load_eq_ofEntries {source : Option SettingsFile} {environment : List (String × String)}
    {overrides file : Entries} {d : Nat} (hd : depth ≤ d)
    (h : source.elim (.ok []) (entriesTo d) = .ok file) :
    load source environment overrides
      = ofEntries (layered file (environmentEntries environment) overrides) := by
  obtain ⟨shallow, hshallow, halike⟩ :
      ∃ shallow, source.elim (.ok []) fileEntries = .ok shallow ∧ EntriesAlike 1 shallow file := by
    cases source with
    | none => exact ⟨[], rfl, Except.ok.inj h ▸ .nil⟩
    | some source => exact alike_entriesTo hd h
  unfold load
  rw [hshallow]
  exact ofEntries_congr ((halike.overlayEntries _).overlayEntries _)

/-! ### Sources -/

theorem environmentEntries_of_nonempty {environment : List (String × String)} {url : String}
    (h : environment.lookup databaseVariable = some url) (hurl : url ≠ "") :
    environmentEntries environment
      = [(.text "database", .mapping [(.text "url", .atom (.text url))])] := by
  unfold environmentEntries
  rw [h]
  exact if_neg (by simpa using hurl)

theorem environmentEntries_of_empty {environment : List (String × String)}
    (h : ∀ url, environment.lookup databaseVariable = some url → url = "") :
    environmentEntries environment = [] := by
  unfold environmentEntries
  split
  · rfl
  · rename_i url hurl
    rw [h url hurl]
    rfl

theorem environmentEntries_cases (environment : List (String × String)) :
    environmentEntries environment = [] ∨ ∃ url,
      environmentEntries environment
        = [(.text "database", .mapping [(.text "url", .atom (.text url))])] := by
  unfold environmentEntries
  split
  · exact .inl rfl
  · split
    · exact .inl rfl
    · exact .inr ⟨_, rfl⟩

theorem isSettled_environmentEntries (environment : List (String × String)) :
    (Yaml.mapping (environmentEntries environment)).isSettled = true := by
  rcases environmentEntries_cases environment with h | ⟨url, h⟩ <;> rw [h] <;> rfl

/-- The environment says nothing outside of the section of the database. -/
theorem at?_environmentEntries {k : Atom} (hk : (k == .text "database") = false)
    (environment : List (String × String)) (path : List Atom) :
    at? (k :: path) (.mapping (environmentEntries environment)) = none := by
  rcases environmentEntries_cases environment with h | ⟨url, h⟩ <;> rw [h]
  · rfl
  · show (List.lookup k [(Atom.text "database", _)]).bind (at? path) = none
    rw [List.lookup_cons, hk]
    rfl

theorem untouched_environmentEntries {k : Atom} (hk : (k == .text "database") = false)
    (environment : List (String × String)) (path : List Atom) :
    Untouched (k :: path) (.mapping (environmentEntries environment)) where
  unbound := at?_environmentEntries hk environment path
  way := by
    intro q value hq _ hvalue
    cases q with
    | nil => exact Option.some.inj hvalue ▸ rfl
    | cons l q =>
        rw [(List.cons_prefix_cons.mp hq).1, at?_environmentEntries hk] at hvalue
        cases hvalue

/-- Where the place of the database is said. -/
def urlPath : List Atom := [.text "database", .text "url"]

theorem untouched_urlPath {entries : Entries} (hurl : at? urlPath (.mapping entries) = none)
    (hdatabase : ∀ value, at? [.text "database"] (.mapping entries) = some value →
      value.isMapping = true) : Untouched urlPath (.mapping entries) where
  unbound := hurl
  way := by
    intro q value hq hne hvalue
    -- The beginnings of a path with two steps are the empty one, its first step and itself.
    match q with
    | [] => exact Option.some.inj hvalue ▸ rfl
    | [k] =>
        rw [(List.cons_prefix_cons.mp hq).1] at hvalue
        exact hdatabase value hvalue
    | k :: l :: q =>
        obtain ⟨rfl, htail⟩ := List.cons_prefix_cons.mp hq
        obtain ⟨rfl, hrest⟩ := List.cons_prefix_cons.mp htail
        rw [List.prefix_nil.mp hrest] at hne
        exact absurd rfl hne

/-- How the paths into what is validated come from the sources. -/
structure Sourced (file : Entries) (environment : List (String × String))
    (overrides result : Entries) : Prop where
  of_overrides : ∀ path value, at? path (.mapping overrides) = some value →
    value.isMapping = false → at? path (.mapping result) = some value
  url_of_environment : at? urlPath (.mapping overrides) = none →
    (∀ value, at? [.text "database"] (.mapping overrides) = some value → value.isMapping = true) →
    ∀ url, environment.lookup databaseVariable = some url → url ≠ "" →
      at? urlPath (.mapping result) = some (.atom (.text url))
  url_of_file : at? urlPath (.mapping overrides) = none →
    (∀ value, at? [.text "database"] (.mapping overrides) = some value → value.isMapping = true) →
    (∀ url, environment.lookup databaseVariable = some url → url = "") →
      at? urlPath (.mapping result) = at? urlPath (.mapping file)
  of_file : ∀ k path, (k == .text "database") = false →
    Untouched (k :: path) (.mapping overrides) →
    at? (k :: path) (.mapping result) = at? (k :: path) (.mapping file)

theorem sourced_layered (file : Entries) (environment : List (String × String))
    {overrides : Entries} (h : (Yaml.mapping overrides).isSettled = true) :
    Sourced file environment overrides
      (layered file (environmentEntries environment) overrides) := by
  have hupper := Yaml.resolves_overlay
    (.mapping (Yaml.overlayEntries file (environmentEntries environment))) h
  have hlower := Yaml.resolves_overlay (.mapping file) (isSettled_environmentEntries environment)
  refine ⟨hupper.value_of_top, ?_, ?_, ?_⟩
  · intro hnone hway url hurl hne
    refine (hupper.of_base urlPath (untouched_urlPath hnone hway)).trans
      (hlower.value_of_top urlPath _ ?_ rfl)
    rw [environmentEntries_of_nonempty hurl hne]
    rfl
  · intro hnone hway hempty
    refine (hupper.of_base urlPath (untouched_urlPath hnone hway)).trans ?_
    rw [environmentEntries_of_empty hempty]
    rfl
  · intro k path hk huntouched
    exact (hupper.of_base (k :: path) huntouched).trans
      (hlower.of_base (k :: path) (untouched_environmentEntries hk environment path))

/-- Values are resolved path by path when they are laid over each other, and so are the sources of
settings; what comes of them is validated, however deep the file is taken. -/
theorem resolved_by_precedence (base top file : Entries) (environment : List (String × String))
    (overrides : Entries)
    (htop : (Yaml.mapping top).isSettled = true)
    (hoverrides : (Yaml.mapping overrides).isSettled = true) :
    Yaml.Resolves (.mapping base) (.mapping top) (.mapping (Yaml.overlayEntries base top)) ∧
      Sourced file environment overrides
        (layered file (environmentEntries environment) overrides) ∧
      ∀ source d, depth ≤ d → source.elim (.ok []) (entriesTo d) = .ok file →
        load source environment overrides
          = ofEntries (layered file (environmentEntries environment) overrides) :=
  ⟨Yaml.resolves_overlay (.mapping base) htop, sourced_layered file environment hoverrides,
    fun _ _ => load_eq_ofEntries⟩

/-- The place of the database from the environment, over a section that is none, and a port from the
command line. -/
theorem resolved_by_precedence_port :
    at? urlPath (.mapping (layered [(.text "database", .null)]
        (environmentEntries [(databaseVariable, "u")])
        [(.text "server", .mapping [(.text "port", .atom (whole 2))])]))
      = some (.atom (.text "u")) ∧
    at? [.text "server", .text "port"] (.mapping (layered [(.text "database", .null)]
        (environmentEntries [(databaseVariable, "u")])
        [(.text "server", .mapping [(.text "port", .atom (whole 2))])]))
      = some (.atom (whole 2)) := by
  have hsourced := (resolved_by_precedence [(.text "server", .null)]
    [(.text "server", .mapping [(.text "port", .atom (whole 2))])] [(.text "database", .null)]
    [(databaseVariable, "u")] [(.text "server", .mapping [(.text "port", .atom (whole 2))])]
    (by decide) (by decide)).2.1
  exact ⟨hsourced.url_of_environment rfl (fun _ h => by cases h) "u" rfl (by decide),
    hsourced.of_overrides _ _ rfl rfl⟩

end RetrievalTelemetry.Settings
