import ApiOutline.Proofs.Configuration

/-! Whether the options of a run agree with those of the project where nothing else sets any. What
is read from the file of the project is put into an object and read once more. In between, an extra
key that is called like a field hides the field. -/
namespace ApiOutline.Configuration

variable {s : Surroundings}

/-- Options hold what was read from an object for all fields that it gives. -/
def Keeps (o : Object) (r : Options.Reading) (options : Options) : Prop :=
  ∀ e ∈ r.options.values, ¬ e.1.IsAbsent o → e ∈ options.values

/-! ### Nothing but a project -/

def WithoutPreferences (s : Surroundings) : Prop :=
  ∀ p, preferencesPath s = .ok p → ∀ bytes, s.file? p ≠ .ok (some bytes)

/-- The file of the user can be looked up, and is not there. -/
def LooksUpNothing (s : Surroundings) : Prop :=
  ∃ p, preferencesPath s = .ok p ∧ s.file? p = .ok none

theorem preferences_of_nothing [Machine] (nothing : LooksUpNothing s) :
    preferences s = .ok Preferences.usual := by
  obtain ⟨p, path, file⟩ := nothing
  have document : readJson s "global config" p = .ok none := by
    simp only [readJson, Surroundings.text?, file]
    rfl
  simp only [preferences, path]
  exact Except.bind_eq_ok.mpr ⟨p, rfl, Except.bind_eq_ok.mpr ⟨none, document, rfl⟩⟩

theorem nothing_of_preferences [Machine] (without : WithoutPreferences s) {u : Preferences}
    (h : preferences s = .ok u) : LooksUpNothing s := by
  obtain ⟨p, path, h⟩ := Except.bind_eq_ok.mp h
  obtain ⟨_, document, _⟩ := Except.bind_eq_ok.mp h
  obtain ⟨_, text, _⟩ := Except.bind_eq_ok.mp document
  obtain ⟨bytes, file, _⟩ := Except.bind_eq_ok.mp text
  have place := Except.lift_malformed_eq_ok.mp path
  cases bytes with
  | none => exact ⟨p, place, file⟩
  | some bytes => exact absurd file (without p place bytes)

def WithoutVariables (s : Surroundings) : Prop := ∀ v ∈ optionVariables, s.setting? v.1 = none

theorem environmentFlags_of_none (unset : WithoutVariables s) :
    environmentFlags s = .ok Flags.absent := by
  simp only [WithoutVariables, optionVariables, List.forall_mem_cons] at unset
  obtain ⟨strict, viewer, subOperations, _⟩ := unset
  simp only [environmentFlags, environmentFlag, strict, viewer, subOperations]
  rfl

section Project

variable {p o : Object} {loop : Option Nat} {r : Options.Reading}

def again (r : Options.Reading) : Object := merged ⟨Options.usual, []⟩ r Flags.absent Flags.absent

theorem resolve_of_nothing [Machine] (nothing : LooksUpNothing s) (unset : WithoutVariables s)
    (found : project s = .ok (some p)) (block : Object.field p "options" = .object o loop)
    (read : Options.read (.object o loop) = .ok r) :
    resolve s Flags.absent =
      match Options.read (.object (again r)) with
      | .ok r => .ok r.options
      | .error faults => .error (.invalid ⟨"PreprocessOptions", faults⟩) := by
  have overlay : overlayProject Preferences.usual.options.byName (some p) =
      .ok (setAll Options.usual.byName (r.options.dump Options.Field.name r.given)) := by
    simp only [overlayProject, block, read]
    rfl
  rw [resolve_eq, preferences_of_nothing nothing, found]
  show (overlayProject Preferences.usual.options.byName (some p)).bind _ = _
  rw [overlay, environmentFlags_of_none unset]
  rfl

variable (reads : Options.Reads o r) (distinct : o.Distinct)

include reads distinct

theorem get?_again {f : Options.Field} {b : Bool} (member : (f, b) ∈ r.options.values) :
    Object.get? (again r) (.text f.name) = ((Object.get? r.options.extra (.text f.name)).or
      (if (f.given? o).isSome then some (.bool b) else none)).or (some (.bool f.usual)) := by
  have hf := Options.field_of_mem_values member
  have inUser : (f, f.usual) ∈ Options.usual.values := by
    rcases List.mem_cons.mp hf with rfl | hf
    · simp [Options.values, Options.subOperationsField]
    · rcases List.mem_pair.mp hf with rfl | rfl <;>
        simp [Options.values, Options.viewerField, Options.strictField]
  have unset : (f, none) ∈ Flags.absent.values := by
    rcases List.mem_cons.mp hf with rfl | hf
    · simp [Flags.values, Flags.absent]
    · rcases List.mem_pair.mp hf with rfl | rfl <;> simp [Flags.values, Flags.absent]
  exact get?_merged Options.reads_nil reads List.nodup_nil distinct inUser member unset unset

theorem read_again {f : Options.Field} {b : Bool} (member : (f, b) ∈ r.options.values)
    (shown : Object.get? r.options.extra (.text f.name) = none) : f.read (again r) = .ok b := by
  have hf := Options.field_of_mem_values member
  have value : Object.get? (again r) (.text f.name) = some (.bool b) := by
    rw [get?_again reads distinct member, shown]
    cases given : f.given? o with
    | some _ => rfl
    | none =>
      have usual := reads.fields _ member
      rw [Options.Field.read_of_absent (Options.Field.given?_eq_none.mp given)] at usual
      cases usual
      rfl
  rw [again, read_merged Options.reads_nil reads List.nodup_nil distinct hf value]
  rfl

theorem read_again_of_twice (twice : Options.GivenTwice o) :
    Options.subOperationsField.read (again r) =
      (Options.truth (Object.field o "add_sub_operations")).mapError
        fun e => ⟨[.name "add_sub_operations"], e⟩ := by
  obtain ⟨t, found⟩ := Option.isSome_iff_exists.mp twice.2
  have hf : Options.subOperationsField ∈ Options.allFields := List.mem_cons_self
  obtain ⟨b, member⟩ := r.options.exists_mem_values hf
  have value : Object.get? (again r) (.text Options.subOperationsField.name) = some t := by
    rw [get?_again reads distinct member, reads.get?_extra_of_twice twice,
      show Object.get? o (.text Options.subOperationsField.name) = some t from found]
    rfl
  rw [again, read_merged Options.reads_nil reads List.nodup_nil distinct hf value, Object.field,
    found]
  rfl

end Project

/-- Exactly if both spellings of a field that is given twice mean the same, and the file of the user
can be looked up, a run has the options that are read from the project. -/
theorem project_options_kept_iff [Machine] (s : Surroundings) (p o : Object) (loop : Option Nat)
    (r : Options.Reading) (without : WithoutPreferences s) (unset : WithoutVariables s)
    (found : project s = .ok (some p)) (block : Object.field p "options" = .object o loop)
    (read : Options.read (.object o loop) = .ok r) :
    (∃ options, resolve s Flags.absent = .ok options ∧ Keeps o r options) ↔
      LooksUpNothing s ∧ (Options.GivenTwice o →
        Options.truth (Object.field o "add_sub_operations") =
          Options.truth (Object.field o "addSubOperations")) := by
  have reads := Options.read_eq_ok.mp read
  have distinct : o.Distinct := by
    have place : projectOptions s = (Object.field p "options").entriesOrNone :=
      projectOptions_eq found
    rw [block] at place
    exact (show projectOptions s = o from place) ▸ optionsAt_distinct s (projectPath s)
  have hf : Options.subOperationsField ∈ Options.allFields := List.mem_cons_self
  obtain ⟨b, member⟩ := r.options.exists_mem_values hf
  constructor
  · rintro ⟨options, resolved, keeps⟩
    obtain ⟨u, preferred, _⟩ := Except.bind_eq_ok.mp resolved
    have nothing := nothing_of_preferences without preferred
    refine ⟨nothing, fun twice => ?_⟩
    rw [resolve_of_nothing nothing unset found block read] at resolved
    split at resolved
    · rename_i r' readAgain
      cases resolved
      have given : ¬ Options.subOperationsField.IsAbsent o := fun absent =>
        Option.isSome_iff_ne_none.mp twice.1 (absent _ List.mem_cons_self)
      have kept := (Options.read_eq_ok.mp readAgain).fields _ (keeps _ member given)
      rw [read_again_of_twice reads distinct twice] at kept
      rw [reads.truth_of_twice twice member]
      exact Except.mapError_eq_ok.mp kept
    · cases resolved
  · rintro ⟨nothing, agree⟩
    have same (e : Options.Field × Bool) (he : e ∈ r.options.values) :
        e.1.read (again r) = .ok e.2 := by
      obtain ⟨f, b'⟩ := e
      -- Only a second spelling can hide a field, and it means the same.
      by_cases shown : Object.get? r.options.extra (.text f.name) = none
      · exact read_again reads distinct he shown
      · obtain ⟨rfl, twice⟩ := reads.twice_of_hidden (Options.field_of_mem_values he) shown
        rw [read_again_of_twice reads distinct twice, agree twice, reads.truth_of_twice twice he]
        rfl
    obtain ⟨r', readAgain, values⟩ := Options.exists_of_fields same
    refine ⟨r'.options, ?_, fun e he _ => values ▸ he⟩
    rw [resolve_of_nothing nothing unset found block read, readAgain]

def workshop (text : String) : Surroundings where
  system := "Linux"
  environment := [("HOME", "/home/me")]
  directory := Path.ofText "/work"
  directories := []
  files := [(Path.ofText "/work/specgraph.json", text.toUTF8)]
  input := ""
  fetch := fun _ => .failure ""
  isTerminal := false

theorem workshop_nothing (text : String) : LooksUpNothing (workshop text) := by
  refine ⟨Path.ofText "/home/me/.config/specgraph/config.json", rfl, ?_⟩
  simp only [Surroundings.file?, String.contains_char_eq]
  rfl

theorem workshop_without (text : String) :
    WithoutPreferences (workshop text) ∧ WithoutVariables (workshop text) := by
  obtain ⟨p, path, file⟩ := workshop_nothing text
  constructor
  · intro p' path' bytes file'
    rw [path] at path'
    cases path'
    rw [file] at file'
    cases file'
  · show ∀ v ∈ optionVariables, (workshop "").setting? v.1 = none
    decide

theorem exists_of_project_any [Machine] {q : Object → Options.Reading → Bool}
    (h : (project s).toOption.any (fun p => p.any fun p =>
      (Options.read (Object.field p "options")).toOption.any
        (q (Object.field p "options").entriesOrNone)) = true) :
    ∃ p o loop r, project s = .ok (some p) ∧ Object.field p "options" = .object o loop ∧
      Options.read (.object o loop) = .ok r ∧ q o r = true := by
  obtain ⟨p, found, h⟩ := Except.exists_of_any h
  obtain ⟨p, rfl, h⟩ := (Option.any_eq_true _ _).mp h
  obtain ⟨r, read, h⟩ := Except.exists_of_any h
  obtain ⟨o, loop, block, _⟩ := Options.exists_of_read read
  rw [block] at read h
  exact ⟨p, o, loop, r, found, block, read, h⟩

def tandem : String :=
  "\x7b\"options\": \x7b\"addSubOperations\": true, \"add_sub_operations\": \"yes\"\x7d\x7d"

set_option maxRecDepth 100000 in
theorem tandem_options : ∃ p o loop r options,
    WithoutPreferences (workshop tandem) ∧ WithoutVariables (workshop tandem) ∧
    project (workshop tandem) = .ok (some p) ∧ Object.field p "options" = .object o loop ∧
    Options.read (.object o loop) = .ok r ∧ Options.GivenTwice o ∧
    resolve (workshop tandem) Flags.absent = .ok options ∧ Keeps o r options := by
  obtain ⟨p, o, loop, r, found, block, read, checked⟩ := exists_of_project_any
    (s := workshop tandem)
    (q := fun o _ => Object.has o "addSubOperations" && Object.has o "add_sub_operations" &&
      ((Options.truth (Object.field o "addSubOperations")).toOption.any id &&
        (Options.truth (Object.field o "add_sub_operations")).toOption.any id)) (by
      simp only [project, readJson, Surroundings.text?, Surroundings.file?,
        String.contains_char_eq]
      decide +kernel)
  simp only [Bool.and_eq_true] at checked
  obtain ⟨twice, camel, name⟩ := checked
  obtain ⟨b, camel, yes⟩ := Except.exists_of_any camel
  obtain ⟨b', name, yes'⟩ := Except.exists_of_any name
  have agree : Options.truth (Object.field o "add_sub_operations") =
      Options.truth (Object.field o "addSubOperations") := by
    rw [camel, name, show b = true from yes, show b' = true from yes']
  obtain ⟨without, unset⟩ := workshop_without tandem
  obtain ⟨options, resolved, keeps⟩ := (project_options_kept_iff (workshop tandem) p o loop r
    without unset found block read).mpr ⟨workshop_nothing tandem, fun _ => agree⟩
  exact ⟨p, o, loop, r, options, without, unset, found, block, read, twice, resolved, keeps⟩

def quarrel : String :=
  "\x7b\"options\": \x7b\"addSubOperations\": true, \"add_sub_operations\": false\x7d\x7d"

set_option maxRecDepth 100000 in
/-- Sub-operations are on in the options of this project, but off in a run. -/
theorem quarrel_options : ∃ p o loop r options,
    WithoutPreferences (workshop quarrel) ∧ WithoutVariables (workshop quarrel) ∧
    project (workshop quarrel) = .ok (some p) ∧ Object.field p "options" = .object o loop ∧
    Options.read (.object o loop) = .ok r ∧ Object.has o "addSubOperations" = true ∧
    r.options.addSubOperations = true ∧
    resolve (workshop quarrel) Flags.absent = .ok options ∧ options.addSubOperations = false := by
  obtain ⟨p, o, loop, r, found, block, read, checked⟩ := exists_of_project_any
    (s := workshop quarrel)
    (q := fun o r => Object.has o "addSubOperations" && r.options.addSubOperations) (by
      simp only [project, readJson, Surroundings.text?, Surroundings.file?,
        String.contains_char_eq]
      decide +kernel)
  obtain ⟨given, on⟩ := (Bool.and_eq_true _ _).mp checked
  obtain ⟨options, resolved, off⟩ := Except.exists_of_any
    (x := resolve (workshop quarrel) Flags.absent) (p := fun o => !o.addSubOperations) (by
      simp only [resolve, preferences, project, readJson, Surroundings.text?, Surroundings.file?,
        String.contains_char_eq]
      decide +kernel)
  obtain ⟨without, unset⟩ := workshop_without quarrel
  exact ⟨p, o, loop, r, options, without, unset, found, block, read, given, on, resolved,
    (Bool.not_eq_true' _).mp off⟩

end ApiOutline.Configuration
