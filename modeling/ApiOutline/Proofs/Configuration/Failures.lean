import ApiOutline.Proofs.Configuration
import ApiOutline.Proofs.Document
import ApiOutline.Proofs.Surroundings

/-! Why options cannot be resolved. What is wrong with a file or a variable is reported as a fault
of the configuration, apart from files that cannot be read, and from extra keys that are called like
a field and hold no truth value. -/
namespace ApiOutline.Configuration

variable {s : Surroundings} {f : Failure} {what : Malformed}

def IsReported (f : Failure) : Prop := ∃ fault, f = .configuration fault

theorem not_isReported_malformed : ¬ IsReported (.malformed what) := by
  rintro ⟨_, ⟨⟩⟩

/-! ### Files -/

section

variable [Machine]

inductive UnreadableJson (s : Surroundings) (p : Path) : Malformed → Prop where
  | file {what : Malformed} : s.Unreadable p what → UnreadableJson s p what
  | excess {what : Malformed} {text : String} : s.text? p = .ok (some text) →
      Json.Excess text.toList what → UnreadableJson s p what

theorem readJson_eq_error {l : String} {p : Path} :
    readJson s l p = .error f ∧ ¬ IsReported f ↔
      ∃ what, f = .malformed what ∧ UnreadableJson s p what := by
  constructor
  · rintro ⟨h, other⟩
    obtain h | ⟨found, file, h⟩ := Except.bind_eq_error.mp h
    · obtain ⟨what, rfl, unreadable⟩ := Surroundings.text?_eq_error.mp h
      exact ⟨what, rfl, .file unreadable⟩
    · cases found with
      | none => cases h
      | some text =>
        dsimp only at h
        split at h
        · cases h
        · rename_i e read
          obtain h | ⟨reason, _, h⟩ := Except.bind_eq_error.mp h
          · obtain ⟨what, rfl, excess⟩ := (Document.jsonFault_eq_error read).mp h
            exact ⟨what, rfl, .excess file excess⟩
          · cases h
            exact absurd ⟨_, rfl⟩ other
  · rintro ⟨what, rfl, unreadable⟩
    refine ⟨?_, not_isReported_malformed⟩
    cases unreadable with
    | file unreadable =>
      have broken := Surroundings.text?_eq_error.mpr ⟨what, rfl, unreadable⟩
      exact Except.bind_eq_error.mpr (.inl broken)
    | excess file excess =>
      obtain ⟨e, read⟩ := excess.read_eq_error
      refine Except.bind_eq_error.mpr (.inr ⟨_, file, ?_⟩)
      simp only [read]
      exact Except.bind_eq_error.mpr
        (.inl ((Document.jsonFault_eq_error read).mpr ⟨what, rfl, excess⟩))

omit [Machine] in
theorem home_eq_error (h : home s = .error what) : what = .homeless := by
  unfold home at h
  split at h
  · cases h
    rfl
  · split at h
    · cases h
    · cases h
      rfl
    · cases h

omit [Machine] in
theorem preferencesPath_eq_error (h : preferencesPath s = .error what) : what = .homeless := by
  have ofBase {variableName : String} {usual : List String}
      (h : base s variableName usual = .error what) : what = .homeless := by
    unfold base at h
    split at h
    · cases h
    · obtain h | ⟨_, _, h⟩ := Except.bind_eq_error.mp h
      · exact home_eq_error h
      · cases h
  obtain h | ⟨_, _, h⟩ := Except.bind_eq_error.mp h
  · unfold directory at h
    split at h
    · obtain h | ⟨_, _, h⟩ := Except.bind_eq_error.mp h
      · exact ofBase h
      · cases h
    · obtain h | ⟨_, _, h⟩ := Except.bind_eq_error.mp h
      · exact home_eq_error h
      · cases h
  · cases h

inductive UnreadablePreferences (s : Surroundings) : Malformed → Prop where
  | homeless : preferencesPath s = .error .homeless → UnreadablePreferences s .homeless
  | file {what : Malformed} {p : Path} : preferencesPath s = .ok p → UnreadableJson s p what →
      UnreadablePreferences s what

theorem preferences_eq_error : preferences s = .error f ∧ ¬ IsReported f ↔
    ∃ what, f = .malformed what ∧ UnreadablePreferences s what := by
  constructor
  · rintro ⟨h, other⟩
    obtain h | ⟨p, path, h⟩ := Except.bind_eq_error.mp h
    · obtain ⟨what, path, rfl⟩ := Except.lift_malformed_eq_error.mp h
      cases preferencesPath_eq_error path
      exact ⟨.homeless, rfl, .homeless path⟩
    · obtain h | ⟨document, _, h⟩ := Except.bind_eq_error.mp h
      · obtain ⟨what, rfl, unreadable⟩ := readJson_eq_error.mp ⟨h, other⟩
        exact ⟨what, rfl, .file (Except.lift_malformed_eq_ok.mp path) unreadable⟩
      · cases document with
        | none => cases h
        | some t =>
          dsimp only at h
          split at h
          · cases h
          · obtain ⟨report, _, rfl⟩ := Except.mapError_eq_error.mp h
            exact absurd ⟨_, rfl⟩ other
  · rintro ⟨what, rfl, unreadable⟩
    refine ⟨?_, not_isReported_malformed⟩
    cases unreadable with
    | homeless path =>
      have lifted := Except.lift_malformed_eq_error.mpr ⟨.homeless, path, rfl⟩
      exact Except.bind_eq_error.mpr (.inl lifted)
    | file path unreadable =>
      have stops := (readJson_eq_error (l := "global config")).mpr ⟨what, rfl, unreadable⟩
      exact Except.bind_eq_error.mpr (.inr ⟨_, Except.lift_malformed_eq_ok.mpr path,
        Except.bind_eq_error.mpr (.inl stops.1)⟩)

theorem project_eq_error : project s = .error f ∧ ¬ IsReported f ↔
    ∃ what, f = .malformed what ∧ UnreadableJson s (projectPath s) what := by
  constructor
  · rintro ⟨h, other⟩
    obtain h | ⟨document, _, h⟩ := Except.bind_eq_error.mp h
    · exact readJson_eq_error.mp ⟨h, other⟩
    · split at h
      · cases h
      · cases h
      · split at h
        · cases h
        · cases h
          exact absurd ⟨_, rfl⟩ other
  · intro stops
    obtain ⟨unreadable, other⟩ := (readJson_eq_error (l := "project config")).mpr stops
    exact ⟨Except.bind_eq_error.mpr (.inl unreadable), other⟩

omit [Machine] in
theorem overlayProject_eq_error {o : Object} {p : Option Object}
    (h : overlayProject o p = .error f) : IsReported f := by
  cases p with
  | none => cases h
  | some p =>
    unfold overlayProject at h
    dsimp only at h
    split at h
    · cases h
    · split at h
      · cases h
      · cases h
        exact ⟨_, rfl⟩

omit [Machine] in
theorem truth_eq_error {value source : String} (h : truth value source = .error f) :
    IsReported f := by
  unfold truth at h
  dsimp only at h
  split at h
  · cases h
  · split at h
    · cases h
    · cases h
      exact ⟨_, rfl⟩

omit [Machine] in
theorem environmentFlag_eq_error {name : String} (h : environmentFlag s name = .error f) :
    IsReported f := by
  unfold environmentFlag at h
  split at h
  · cases h
  · exact truth_eq_error (Except.map_eq_error.mp h)

omit [Machine] in
theorem environmentFlags_eq_error (h : environmentFlags s = .error f) : IsReported f := by
  obtain h | ⟨_, _, h⟩ := Except.bind_eq_error.mp h
  · exact environmentFlag_eq_error h
  · obtain h | ⟨_, _, h⟩ := Except.bind_eq_error.mp h
    · exact environmentFlag_eq_error h
    · obtain h | ⟨_, _, h⟩ := Except.bind_eq_error.mp h
      · exact environmentFlag_eq_error h
      · cases h

/-! ### The last reading -/

/-- A value that hides sub-operations where all places are put together. It is an extra key of the
project, or one of the user if the project gives no value. -/
inductive Hides (s : Surroundings) (t : Tree) : Prop where
  | ofProject : Options.GivenTwice (projectOptions s) →
      Object.get? (projectOptions s) (.text "add_sub_operations") = some t → Hides s t
  | ofUser : Options.subOperationsField.IsAbsent (projectOptions s) →
      Options.GivenTwice (userOptions s) →
      Object.get? (userOptions s) (.text "add_sub_operations") = some t → Hides s t

section Layers

variable {user project : Options.Reading} {set flags : Flags}
  (readsUser : Options.Reads (userOptions s) user)
  (readsProject : Options.Reads (projectOptions s) project)

include readsUser readsProject

theorem shown_or_hidden {f : Options.Field} (hf : f ∈ Options.allFields) {said flag : Option Bool}
    (inSet : (f, said) ∈ set.values) (inFlags : (f, flag) ∈ flags.values) :
    (∃ b, f.read (merged user project set flags) = .ok b) ∨
      f = Options.subOperationsField ∧ flag = none ∧ said = none ∧ ∃ t, Hides s t ∧
        Object.get? (merged user project set flags) (.text f.name) = some t := by
  obtain ⟨ofUser, inUser⟩ := user.options.exists_mem_values hf
  obtain ⟨ofProject, inProject⟩ := project.options.exists_mem_values hf
  have value := get?_merged readsUser readsProject (userOptions_distinct s)
    (optionsAt_distinct _ _) inUser inProject inSet inFlags
  have is_read {b : Bool}
      (found : Object.get? (merged user project set flags) (.text f.name) = some (.bool b)) :
      ∃ b, f.read (merged user project set flags) = .ok b :=
    ⟨b, read_merged readsUser readsProject (userOptions_distinct s) (optionsAt_distinct _ _) hf
      found⟩
  -- The extra keys of a file stand above its fields, so they are looked at first.
  cases flag with
  | some b => exact .inl (is_read value)
  | none =>
    cases said with
    | some b => exact .inl (is_read value)
    | none =>
      cases extra : Object.get? project.options.extra (.text f.name) with
      | some t =>
        obtain ⟨rfl, twice⟩ := readsProject.twice_of_hidden hf (by rw [extra]; exact nofun)
        rw [extra] at value
        rw [readsProject.get?_extra_of_twice twice] at extra
        exact .inr ⟨rfl, rfl, rfl, t, .ofProject twice extra, value⟩
      | none =>
        rw [extra] at value
        cases given : f.given? (projectOptions s) with
        | some _ =>
          rw [given] at value
          exact .inl (is_read value)
        | none =>
          rw [given] at value
          cases extra : Object.get? user.options.extra (.text f.name) with
          | some t =>
            obtain ⟨rfl, twice⟩ := readsUser.twice_of_hidden hf (by rw [extra]; exact nofun)
            rw [extra] at value
            rw [readsUser.get?_extra_of_twice twice] at extra
            have absent := Options.Field.given?_eq_none.mp given
            exact .inr ⟨rfl, rfl, rfl, t, .ofUser absent twice extra, value⟩
          | none =>
            rw [extra] at value
            exact .inl (is_read value)

theorem get?_merged_of_hides {t : Tree} (hides : Hides s t) (unset : set.addSubOperations = none)
    (unflagged : flags.addSubOperations = none) :
    Object.get? (merged user project set flags) (.text Options.subOperationsField.name) =
      some t := by
  have hf : Options.subOperationsField ∈ Options.allFields := List.mem_cons_self
  obtain ⟨ofUser, inUser⟩ := user.options.exists_mem_values hf
  obtain ⟨ofProject, inProject⟩ := project.options.exists_mem_values hf
  rw [get?_merged readsUser readsProject (userOptions_distinct s) (optionsAt_distinct _ _) inUser
    inProject set.subOperations_mem_values flags.subOperations_mem_values, unset, unflagged]
  cases hides with
  | ofProject twice found =>
    rw [readsProject.get?_extra_of_twice twice, Options.subOperationsField, found]
    rfl
  | ofUser absent twice found =>
    have unshown :
        Object.get? project.options.extra (.text Options.subOperationsField.name) = none := by
      rw [readsProject.get?_extra, absent _ (by simp), ite_self]
    rw [unshown, Options.Field.given?_eq_none.mpr absent, readsUser.get?_extra_of_twice twice,
      Options.subOperationsField, found]
    rfl

theorem read_merged_eq_error {faults : List FieldFault} :
    Options.read (.object (merged user project set flags)) = .error faults ↔
      set.addSubOperations = none ∧ flags.addSubOperations = none ∧ ∃ t e, Hides s t ∧
        Options.truth t = .error e ∧ faults = [⟨[.name "add_sub_operations"], e⟩] := by
  have alone {f : Options.Field} (hf : f ∈ Options.allFields)
      (other : f.name ≠ Options.subOperationsField.name) :
      ∃ b, f.read (merged user project set flags) = .ok b := by
    obtain ⟨_, inSet⟩ := set.exists_mem_values hf
    obtain ⟨_, inFlags⟩ := flags.exists_mem_values hf
    obtain shown | ⟨rfl, _⟩ := shown_or_hidden readsUser readsProject hf inSet inFlags
    · exact shown
    · exact absurd rfl other
  obtain ⟨viewer, readsViewer⟩ := alone (f := Options.viewerField) (by simp [Options.allFields])
    (by decide)
  obtain ⟨strict, readsStrict⟩ := alone (f := Options.strictField) (by simp [Options.allFields])
    (by decide)
  have hf : Options.subOperationsField ∈ Options.allFields := List.mem_cons_self
  have reads {t : Tree} := @read_merged user project set flags _ _ readsUser readsProject
    (userOptions_distinct s) (optionsAt_distinct _ _) _ hf t
  rw [Options.read_eq_error readsViewer readsStrict]
  constructor
  · rintro ⟨fault, failed, rfl⟩
    obtain ⟨b, shown⟩ | ⟨_, unflagged, unset, t, hides, found⟩ := shown_or_hidden readsUser
      readsProject hf set.subOperations_mem_values flags.subOperations_mem_values
    · cases shown.symm.trans failed
    · obtain ⟨e, bad, rfl⟩ := Except.mapError_eq_error.mp ((reads found).symm.trans failed)
      exact ⟨unset, unflagged, t, e, hides, bad, rfl⟩
  · rintro ⟨unset, unflagged, t, e, hides, bad, rfl⟩
    have found := get?_merged_of_hides readsUser readsProject hides unset unflagged
    exact ⟨_, (reads found).trans (Except.mapError_eq_error.mpr ⟨e, bad, rfl⟩), rfl⟩

end Layers

def PlacesRead (s : Surroundings) : Prop :=
  ∃ u p o set, preferences s = .ok u ∧ project s = .ok p ∧
    overlayProject u.options.byName p = .ok o ∧ environmentFlags s = .ok set

/-- What no run is prepared for when it looks for options. -/
inductive Unprepared (s : Surroundings) (flags : Flags) : Failure → Prop where
  | preferences {what : Malformed} : UnreadablePreferences s what →
      Unprepared s flags (.malformed what)
  | project {what : Malformed} {u : Preferences} : preferences s = .ok u →
      UnreadableJson s (projectPath s) what → Unprepared s flags (.malformed what)
  | hidden {t : Tree} {e : Expected} : PlacesRead s →
      s.setting? "SPECGRAPH_ADD_SUB_OPERATIONS" = none → flags.addSubOperations = none →
      Hides s t → Options.truth t = .error e →
      Unprepared s flags (.invalid ⟨"PreprocessOptions", [⟨[.name "add_sub_operations"], e⟩]⟩)

/-- All failures to resolve options are reported as faults of the configuration, except those that
no run is prepared for. -/
theorem resolve_eq_error (s : Surroundings) (flags : Flags) (f : Failure) :
    resolve s flags = .error f ∧ ¬ IsReported f ↔ Unprepared s flags f := by
  constructor
  · rintro ⟨h, other⟩
    have steps := h
    rw [resolve_eq] at steps
    obtain steps | ⟨u, preferred, steps⟩ := Except.bind_eq_error.mp steps
    · obtain ⟨what, rfl, unreadable⟩ := preferences_eq_error.mp ⟨steps, other⟩
      exact .preferences unreadable
    obtain steps | ⟨p, found, steps⟩ := Except.bind_eq_error.mp steps
    · obtain ⟨what, rfl, unreadable⟩ := project_eq_error.mp ⟨steps, other⟩
      exact .project preferred unreadable
    obtain steps | ⟨o, overlay, steps⟩ := Except.bind_eq_error.mp steps
    · exact absurd (overlayProject_eq_error steps) other
    obtain steps | ⟨set, environment, _⟩ := Except.bind_eq_error.mp steps
    · exact absurd (environmentFlags_eq_error steps) other
    obtain ⟨user, project, readsUser, readsProject, same⟩ :=
      exists_of_places preferred found overlay environment
    -- What is left is the last reading, which is not guarded.
    rw [same] at h
    split at h
    · cases h
    · rename_i faults failed
      cases h
      obtain ⟨unset, unflagged, t, e, hides, bad, rfl⟩ :=
        (read_merged_eq_error readsUser readsProject).mp failed
      have said := (environmentFlags_eq_ok environment).2.2
      rw [unset, environmentFlag_eq_none] at said
      exact .hidden ⟨u, p, o, set, preferred, found, overlay, environment⟩ said unflagged hides bad
  · intro unprepared
    cases unprepared with
    | preferences unreadable =>
      obtain ⟨failed, other⟩ := preferences_eq_error.mpr ⟨_, rfl, unreadable⟩
      exact ⟨Except.bind_eq_error.mpr (.inl failed), other⟩
    | project preferred unreadable =>
      obtain ⟨failed, other⟩ := project_eq_error.mpr ⟨_, rfl, unreadable⟩
      exact ⟨Except.bind_eq_error.mpr (.inr ⟨_, preferred, Except.bind_eq_error.mpr (.inl failed)⟩),
        other⟩
    | hidden places said unflagged hides bad =>
      obtain ⟨u, p, o, set, preferred, found, overlay, environment⟩ := places
      obtain ⟨user, project, readsUser, readsProject, same⟩ :=
        exists_of_places preferred found overlay environment
      have unset : set.addSubOperations = none := by
        have flag := (environmentFlags_eq_ok environment).2.2
        exact (Except.ok.inj (flag.symm.trans (environmentFlag_eq_none.mpr said)))
      have failed := (read_merged_eq_error readsUser readsProject).mpr
        ⟨unset, unflagged, _, _, hides, bad, rfl⟩
      refine ⟨?_, by rintro ⟨_, ⟨⟩⟩⟩
      rw [same, failed]

end

def torn : Surroundings where
  system := "Linux"
  environment := [("HOME", "/home/me")]
  directory := Path.ofText "/work"
  directories := []
  files := [(Path.ofText "/work/specgraph.json", ⟨#[0xff]⟩)]
  input := ""
  fetch := fun _ => .failure ""
  isTerminal := false

theorem torn_options : ∃ f, resolve torn Flags.absent = .error f ∧ ¬ IsReported f := by
  refine ⟨.malformed .notUtf8, ?_, not_isReported_malformed⟩
  simp only [resolve, preferences, project, readJson, Surroundings.text?, Surroundings.file?,
    String.contains_char_eq]
  rfl

end ApiOutline.Configuration
