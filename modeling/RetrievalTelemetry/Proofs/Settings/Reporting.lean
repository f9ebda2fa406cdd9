/-
Which settings cannot be loaded without a mishap.

Errors that are foreseen are reported.  Of the others there are two: a fault of the document that
nobody expects, and a section whose name is no text.  No source takes a name away, and a name that
is said again stays a text, or stays none, so such a section is met exactly if a source has it; it
is met before anything else is validated.
-/
import RetrievalTelemetry.Proofs.Yaml.Faults
import RetrievalTelemetry.Proofs.Yaml.Overlay
import RetrievalTelemetry.Settings.Load

namespace RetrievalTelemetry.Settings

open Yaml (Atom Denoted)

/-! ### Names of sections -/

theorem isNamed_congr {a b : Atom} (h : (a == b) = true) : isNamed a = isNamed b := by
  have hdenoted : ∀ a : Atom, isNamed a = match a.denoted with
      | .text _ | .garbled _ => true
      | _ => false := by
    intro a
    cases a <;> rfl
  rw [hdenoted a, hdenoted b, Yaml.Atom.beq_iff.mp h]

/-- Whether all sections are named by texts. -/
def allNamed (entries : Entries) : Bool := entries.all fun entry => isNamed entry.1

theorem allNamed_putField (key : Atom) (value : Yaml) (entries : Entries) :
    allNamed (putField key value entries) = (isNamed key && allNamed entries) := by
  induction entries with
  | nil => rfl
  | cons entry entries ih =>
      unfold putField
      split
      · rename_i hkey
        show (isNamed entry.1 && allNamed entries)
          = (isNamed key && (isNamed entry.1 && allNamed entries))
        rw [← Bool.and_assoc, isNamed_congr hkey, Bool.and_self]
      · show (isNamed entry.1 && allNamed (putField key value entries))
          = (isNamed key && (isNamed entry.1 && allNamed entries))
        rw [ih, Bool.and_left_comm]

theorem allNamed_overlayEntries (top : Entries) : ∀ base : Entries,
    allNamed (Yaml.overlayEntries base top) = (allNamed base && allNamed top) := by
  induction top with
  | nil => exact fun base => (Bool.and_true _).symm
  | cons entry rest ih =>
      intro base
      rw [Yaml.overlayEntries_cons, ih, allNamed_putField]
      show _ = (allNamed base && (isNamed entry.1 && allNamed rest))
      rw [Bool.and_comm (isNamed entry.1), Bool.and_assoc]

theorem allNamed_environmentEntries (environment : List (String × String)) :
    allNamed (environmentEntries environment) = true := by
  unfold environmentEntries
  split
  · rfl
  · split <;> rfl

/-- A name is taken over from every source. -/
theorem allNamed_layered (file : Entries) (environment : List (String × String))
    (overrides : Entries) :
    allNamed (layered file (environmentEntries environment) overrides)
      = (allNamed file && allNamed overrides) := by
  unfold layered
  rw [allNamed_overlayEntries, allNamed_overlayEntries, allNamed_environmentEntries, Bool.and_true]

/-! ### Errors -/

/-- Validation stops at a section without a name, and reports everything else. -/
theorem ofEntries_cases (entries : Entries) :
    (allNamed entries = false ∧ ofEntries entries = .error .unnamedSection) ∨
      allNamed entries = true ∧
        ((∃ settings, ofEntries entries = .ok settings) ∨
          ∃ problems, ofEntries entries = .error (.invalid problems)) := by
  unfold ofEntries
  split
  · rename_i hnamed
    refine .inr ⟨hnamed, ?_⟩
    cases check entries with
    | valid settings => exact .inl ⟨settings, rfl⟩
    | invalid problems => exact .inr ⟨problems, rfl⟩
  · rename_i hnamed
    exact .inl ⟨Bool.eq_false_iff.mpr hnamed, rfl⟩

/-- The document of a file has a fault. -/
def HasFault (file : SettingsFile) (fault : Yaml.Fault) : Prop :=
  ∃ text, file.text = some text ∧ Yaml.ofText depth text = .error fault

theorem fileEntries_of_hasFault {file : SettingsFile} {fault : Yaml.Fault}
    (h : HasFault file fault) :
    fileEntries file = .error (.unreadable (FilePath.tidy file.path) fault) := by
  obtain ⟨text, htext, hfault⟩ := h
  unfold fileEntries entriesTo
  rw [htext]
  dsimp only
  rw [hfault]

/-- A file without entries is missing, has a fault, or is no mapping. -/
theorem fileEntries_error {file : SettingsFile} {error : SettingsError}
    (h : fileEntries file = .error error) (hunforeseen : error.isForeseen = false) :
    ∃ fault, HasFault file fault ∧ error = .unreadable (FilePath.tidy file.path) fault := by
  unfold fileEntries entriesTo at h
  dsimp only at h
  split at h
  · cases h
    cases hunforeseen
  · rename_i text htext
    split at h
    · rename_i fault hfault
      cases h
      exact ⟨fault, ⟨text, htext, hfault⟩, rfl⟩
    · split at h
      · cases h
      · split at h
        · cases h
        · cases h
          cases hunforeseen

theorem load_of_error {file : SettingsFile} {error : SettingsError}
    (h : fileEntries file = .error error) (environment : List (String × String))
    (overrides : Entries) : load (some file) environment overrides = .error error := by
  unfold load
  dsimp only [Option.elim_some]
  rw [h]
  rfl

theorem load_of_entries {source : Option SettingsFile} {entries : Entries}
    (h : source.elim (.ok []) fileEntries = .ok entries) (environment : List (String × String))
    (overrides : Entries) :
    load source environment overrides
      = ofEntries (layered entries (environmentEntries environment) overrides) := by
  unfold load
  rw [h]
  rfl

/-- A section of the file or of the command line is not named by a text. -/
def HasUnnamed (source : Option SettingsFile) (overrides : Entries) : Prop :=
  ∃ entries, source.elim (.ok []) fileEntries = .ok entries ∧
    (allNamed entries && allNamed overrides) = false

theorem load_eq_unnamedSection_iff (source : Option SettingsFile)
    (environment : List (String × String)) (overrides : Entries) :
    load source environment overrides = .error .unnamedSection ↔ HasUnnamed source overrides := by
  constructor
  · intro h
    cases hentries : source.elim (.ok []) fileEntries with
    | error error =>
        cases source with
        | none => cases hentries
        | some file =>
            rw [load_of_error hentries] at h
            obtain ⟨fault, -, herror⟩ := fileEntries_error hentries (Except.error.inj h ▸ rfl)
            rw [herror] at h
            cases h
    | ok entries =>
        refine ⟨entries, hentries, ?_⟩
        rw [load_of_entries hentries] at h
        rw [← allNamed_layered entries environment]
        rcases ofEntries_cases (layered entries (environmentEntries environment) overrides) with
          ⟨hnamed, -⟩ | ⟨-, ⟨settings, hok⟩ | ⟨problems, hinvalid⟩⟩
        · exact hnamed
        · rw [hok] at h
          cases h
        · rw [hinvalid] at h
          cases h
  · rintro ⟨entries, hentries, hnamed⟩
    rw [load_of_entries hentries]
    rw [← allNamed_layered entries environment] at hnamed
    rcases ofEntries_cases (layered entries (environmentEntries environment) overrides) with
      ⟨-, hload⟩ | ⟨hnamed', -⟩
    · exact hload
    · rw [hnamed'] at hnamed
      cases hnamed

/-- An error that is not foreseen is a fault of the document or a section without a name. -/
theorem load_unforeseen {source : Option SettingsFile} {environment : List (String × String)}
    {overrides : Entries} {error : SettingsError}
    (h : load source environment overrides = .error error) (hunforeseen : error.isForeseen = false) :
    (∃ file fault, source = some file ∧ HasFault file fault ∧ fault.isForeseen = false ∧
        error = .unreadable (FilePath.tidy file.path) fault) ∨
      error = .unnamedSection := by
  cases hentries : source.elim (.ok []) fileEntries with
  | error e =>
      cases source with
      | none => cases hentries
      | some file =>
          obtain rfl := Except.error.inj ((load_of_error hentries _ _).symm.trans h)
          obtain ⟨fault, hfault, rfl⟩ := fileEntries_error hentries hunforeseen
          exact .inl ⟨file, fault, rfl, hfault, hunforeseen, rfl⟩
  | ok entries =>
      rw [load_of_entries hentries] at h
      rcases ofEntries_cases (layered entries (environmentEntries environment) overrides) with
        ⟨-, hload⟩ | ⟨-, ⟨settings, hok⟩ | ⟨problems, hinvalid⟩⟩
      · exact .inr (Except.error.inj (h.symm.trans hload))
      · rw [hok] at h
        cases h
      · rw [hinvalid] at h
        cases h
        cases hunforeseen

/-- A document without tags has no unforeseen faults but those of size and depth. -/
theorem fault_of_untagged {file : SettingsFile} {text : String} {g : Yaml.Graph}
    {fault : Yaml.Fault} (htext : file.text = some text)
    (hg : Yaml.Graph.ofTokens (Yaml.Token.ofText text) = .ok (some g))
    (huntagged : Yaml.Graph.Untagged g.parts) (hfault : HasFault file fault)
    (hunforeseen : fault.isForeseen = false) : fault = .tooLarge ∨ fault = .tooDeep := by
  obtain ⟨text', htext', hread⟩ := hfault
  obtain rfl := Option.some.inj (htext.symm.trans htext')
  have hends := Yaml.reads_ofText hg huntagged depth
  rw [hread] at hends
  refine Or.resolve_left hends fun hforeseen => ?_
  rw [hunforeseen] at hforeseen
  cases hforeseen

/-- Whether loading gives settings or an error that is reported. -/
def isReported : Except SettingsError Settings → Bool
  | .ok _ => true
  | .error error => error.isForeseen

theorem isReported_eq_false_iff (result : Except SettingsError Settings) :
    isReported result = false ↔ ∃ error, result = .error error ∧ error.isForeseen = false := by
  cases result with
  | ok settings =>
      constructor
      · intro h
        cases h
      · rintro ⟨_, h, -⟩
        cases h
  | error error =>
      constructor
      · exact fun h => ⟨error, rfl, h⟩
      · rintro ⟨_, heq, h⟩
        cases heq
        exact h

/-- Loading gives settings or an error that is reported, unless the document of the file has an
unforeseen fault, or a section of the file or of the command line is not named by a text.  In the
latter case there is one error, whatever else is wrong; in the former the causes lie in tags, sizes
and depths. -/
theorem load_unreported_iff (source : Option SettingsFile) (environment : List (String × String))
    (overrides : Entries) :
    (isReported (load source environment overrides) = false ↔
      (∃ file fault, source = some file ∧ HasFault file fault ∧ fault.isForeseen = false) ∨
        HasUnnamed source overrides) ∧
      (load source environment overrides = .error .unnamedSection ↔
        HasUnnamed source overrides) ∧
      ∀ file text g fault, file.text = some text →
        Yaml.Graph.ofTokens (Yaml.Token.ofText text) = .ok (some g) →
        Yaml.Graph.Untagged g.parts → HasFault file fault → fault.isForeseen = false →
          fault = .tooLarge ∨ fault = .tooDeep := by
  rw [isReported_eq_false_iff]
  refine ⟨⟨?_, ?_⟩, load_eq_unnamedSection_iff source environment overrides,
    fun _ _ _ _ => fault_of_untagged⟩
  · rintro ⟨error, hload, hunforeseen⟩
    rcases load_unforeseen hload hunforeseen with ⟨file, fault, hfile, hfault, hf, -⟩ | rfl
    · exact .inl ⟨file, fault, hfile, hfault, hf⟩
    · exact .inr ((load_eq_unnamedSection_iff ..).mp hload)
  · rintro (⟨file, fault, rfl, hfault, hunforeseen⟩ | hunnamed)
    · exact ⟨_, load_of_error (fileEntries_of_hasFault hfault) .., hunforeseen⟩
    · exact ⟨_, (load_eq_unnamedSection_iff ..).mpr hunnamed, rfl⟩

/-! ### A document without tags -/

theorem hasFault_of_findings {path text : String} {g : Yaml.Graph} {fault : Yaml.Fault}
    (hg : Yaml.Graph.ofTokens (Yaml.Token.ofText text) = .ok (some g))
    (hfindings : g.findings = .error fault) : HasFault ⟨path, some text⟩ fault := by
  refine ⟨text, rfl, ?_⟩
  unfold Yaml.ofText
  rw [hg]
  show g.findings.map _ = _
  rw [hfindings]
  rfl

/-- What is wrong with a number that is the whole document is wrong with the document. -/
theorem findings_double {shown : String} {fault : Yaml.Fault}
    (h : Yaml.Tag.double.meaning shown = .error fault) :
    Yaml.Graph.findings ⟨#[⟨.double, .scalar shown false⟩], 0⟩ = .error fault := by
  have hatom : Yaml.Graph.Finder.atomOf #[⟨.double, .scalar shown false⟩] .double 0 = .error fault := h
  have hmeet : (Yaml.Graph.Finder.meetPart 0).run
      { parts := #[⟨.double, .scalar shown false⟩], known := #[none] } = .error fault := by
    unfold Yaml.Graph.Finder.meetPart Yaml.Graph.Finder.known?
    simp [hatom]
    rfl
  have hstop : ∀ (rest : Yaml.Graph.Finder Unit),
      (Yaml.Graph.Finder.meetPart 0 >>= fun _ => rest).run
        { parts := #[⟨.double, .scalar shown false⟩], known := #[none] } = .error fault := by
    intro rest
    rw [StateT.run_bind, hmeet]
    rfl
  exact congrArg (· >>= fun x => .ok x.2.known) (hstop (Yaml.Graph.Finder.meetLayers 2))

/-- The characters of a number with so many digits of base sixty that no double has the weight of the
first one. -/
def longNumber : List Char := (List.replicate 174 ['0', ':']).flatten ++ ['0', '.']

theorem tokens_longNumber : Yaml.Token.ofText (String.ofList longNumber)
    = [.scalar true (String.ofList longNumber) false] := by
  unfold Yaml.Token.ofText
  rw [String.toList_ofList]
  decide +kernel

theorem ofPlain_longNumber : Yaml.Tag.ofPlain (String.ofList longNumber) = .double := by
  unfold Yaml.Tag.ofPlain
  rw [String.toList_ofList]
  decide +kernel

theorem graph_longNumber : Yaml.Graph.ofTokens (Yaml.Token.ofText (String.ofList longNumber))
    = .ok (some ⟨#[⟨.double, .scalar (String.ofList longNumber) false⟩], 0⟩) := by
  have hscalar : ∀ shown, Yaml.Graph.ofTokens [.scalar true shown false]
      = .ok (some ⟨#[⟨.ofPlain shown, .scalar shown false⟩], 0⟩) := fun _ => rfl
  rw [tokens_longNumber, hscalar, ofPlain_longNumber]

theorem untagged_longNumber :
    Yaml.Graph.Untagged #[⟨.double, .scalar (String.ofList longNumber) false⟩] := by
  have hlast : longNumber.getLast? ≠ some '\n' := by decide +kernel
  intro i p hp
  obtain rfl : p = ⟨.double, .scalar (String.ofList longNumber) false⟩ := by
    simpa using Array.mem_of_getElem? hp
  unfold Yaml.Part.isUntagged
  dsimp only
  rw [ofPlain_longNumber, String.toList_ofList, decide_eq_true hlast]
  rfl

theorem meaning_longNumber :
    Yaml.Tag.double.meaning (String.ofList longNumber) = .error .tooLarge := by
  have hfails : ∀ {x : Except Yaml.Fault Binary64}, x.map (fun _ => ()) = .error .tooLarge →
      x = .error .tooLarge := by
    intro x h
    cases x with
    | ok x => cases h
    | error fault =>
        cases h
        rfl
  have hdouble : Yaml.Meaning.double longNumber = .error .tooLarge := hfails (by decide +kernel)
  unfold Yaml.Tag.meaning
  dsimp only
  rw [String.toList_ofList, hdouble]
  rfl

/-- A long number is a document without tags, and it is its size that is not reported. -/
theorem load_unreported_iff_longNumber :
    let text : String := String.ofList longNumber
    let file : SettingsFile := ⟨"recorder.yaml", some text⟩
    ∃ g fault, Yaml.Graph.ofTokens (Yaml.Token.ofText text) = .ok (some g) ∧
      Yaml.Graph.Untagged g.parts ∧ HasFault file fault ∧ fault.isForeseen = false ∧
      (fault = .tooLarge ∨ fault = .tooDeep) ∧ isReported (load (some file) [] []) = false := by
  intro text file
  have hfault : HasFault file .tooLarge :=
    hasFault_of_findings graph_longNumber (findings_double meaning_longNumber)
  obtain ⟨hreported, -, hsizes⟩ := load_unreported_iff (some file) [] []
  refine ⟨_, .tooLarge, graph_longNumber, untagged_longNumber, hfault, rfl, ?_, ?_⟩
  · exact hsizes file text _ _ rfl graph_longNumber untagged_longNumber hfault rfl
  · exact hreported.mpr (Or.inl ⟨file, .tooLarge, rfl, hfault, rfl⟩)

/-- A file with a section that is named by a number ends loading without a report. -/
theorem unreported_number :
    isReported (load (some ⟨"recorder.yaml", some "1: 2\n"⟩) [] []) = false := by
  decide +kernel

end RetrievalTelemetry.Settings
