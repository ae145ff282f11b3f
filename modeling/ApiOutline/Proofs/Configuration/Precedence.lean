import ApiOutline.Proofs.Configuration

/-! Which place an option comes from. A flag counts most, then a variable, the file of the project,
the file of the user, and the usual value. Keys that are no options are passed on from both files,
where those of the project count more. -/
namespace ApiOutline.Configuration

open Options (Field)

section

variable [Machine]

/-- Where the value of a field comes from. A place counts if none of those before it gives one. -/
inductive Decided (s : Surroundings) (f : Field) (flag : Option Bool) (variableName : String)
    (b : Bool) : Prop where
  | byFlag : flag = some b → Decided s f flag variableName b
  | byVariable {value : String} : flag = none → s.setting? variableName = some value →
      truth value variableName = .ok b → Decided s f flag variableName b
  | byProject : flag = none → s.setting? variableName = none → f.Gives (projectOptions s) b →
      Decided s f flag variableName b
  | byUser : flag = none → s.setting? variableName = none → f.IsAbsent (projectOptions s) →
      f.Gives (userOptions s) b → Decided s f flag variableName b
  | asUsual : flag = none → s.setting? variableName = none → f.IsAbsent (projectOptions s) →
      f.IsAbsent (userOptions s) → b = f.usual → Decided s f flag variableName b

variable {s : Surroundings}

section Layers

variable {user project r : Options.Reading} {set flags : Flags}
  (readsUser : Options.Reads (userOptions s) user)
  (readsProject : Options.Reads (projectOptions s) project)
  (userOnce : ¬ Options.GivenTwice (userOptions s))
  (projectOnce : ¬ Options.GivenTwice (projectOptions s))
  (reads : Options.Reads (merged user project set flags) r)

include readsUser readsProject userOnce projectOnce

theorem get?_merged_of_once {f : Field} {ofUser ofProject : Bool} {said flag : Option Bool}
    (inUser : (f, ofUser) ∈ user.options.values)
    (inProject : (f, ofProject) ∈ project.options.values) (inSet : (f, said) ∈ set.values)
    (inFlags : (f, flag) ∈ flags.values) :
    Object.get? (merged user project set flags) (.text f.name) =
      (flag.map Tree.bool).or ((said.map Tree.bool).or
        ((if (f.given? (projectOptions s)).isSome then some (.bool ofProject) else none).or
          (some (.bool ofUser)))) := by
  have spelling : Options.isSpelling (.text f.name) = true :=
    Options.isSpelling_iff.mpr ⟨f, Options.field_of_mem_values inUser, f.name, by simp, rfl⟩
  have value := get?_merged readsUser readsProject (userOptions_distinct s)
    (optionsAt_distinct _ _) inUser inProject inSet inFlags
  rwa [readsUser.get?_extra_of_once userOnce, readsProject.get?_extra_of_once projectOnce,
    spelling, if_pos rfl, if_pos rfl,
    Option.none_or, Option.none_or] at value

include reads

theorem decided {f : Field} {flag said : Option Bool} {b : Bool} {variableName : String}
    (inFlags : (f, flag) ∈ flags.values) (inSet : (f, said) ∈ set.values)
    (member : (f, b) ∈ r.options.values) (sets : environmentFlag s variableName = .ok said) :
    Decided s f flag variableName b := by
  have hf := Options.field_of_mem_values member
  obtain ⟨ofUser, inUser⟩ := user.options.exists_mem_values hf
  obtain ⟨ofProject, inProject⟩ := project.options.exists_mem_values hf
  have value := get?_merged_of_once readsUser readsProject userOnce projectOnce inUser inProject
    inSet inFlags
  have is_read {b' : Bool}
      (found : Object.get? (merged user project set flags) (.text f.name) = some (.bool b')) :
      b' = b := by
    have read := read_merged readsUser readsProject (userOptions_distinct s)
      (optionsAt_distinct _ _) hf found
    rw [reads.fields _ member] at read
    cases read
    rfl
  -- The first place that gives a value is the one that `value` names.
  cases flag with
  | some b' => exact .byFlag (congrArg some (is_read value))
  | none =>
    obtain ⟨unset, rfl⟩ | ⟨text, b', is_set, parsed, rfl⟩ := environmentFlag_eq_ok sets
    · cases given : f.given? (projectOptions s) with
      | some _ =>
        rw [given] at value
        cases is_read value
        obtain gives | ⟨absent, _⟩ := Field.read_eq_ok (readsProject.fields _ inProject)
        · exact .byProject rfl unset gives
        · rw [Field.given?_eq_none.mpr absent] at given
          cases given
      | none =>
        have absent := Field.given?_eq_none.mp given
        rw [given] at value
        cases is_read value
        obtain gives | ⟨absentToo, usual⟩ := Field.read_eq_ok (readsUser.fields _ inUser)
        · exact .byUser rfl unset absent gives
        · exact .asUsual rfl unset absent absentToo usual
    · cases is_read value
      exact .byVariable rfl is_set parsed

theorem get?_passed (k : Scalar) : Object.get? r.options.extra k =
    if Options.isSpelling k then none
    else (Object.get? (projectOptions s) k).or (Object.get? (userOptions s) k) := by
  -- No field is given twice in what is put together, so it passes on its keys as a file does.
  have once := not_givenTwice_merged set flags readsUser readsProject (userOptions_distinct s)
    (optionsAt_distinct _ _)
  rw [reads.get?_extra_of_once once]
  cases spelling : Options.isSpelling k with
  | true => rfl
  | false =>
    have other : Options.isName k = false := Bool.eq_false_iff.mpr fun name =>
      Bool.eq_false_iff.mp spelling (Options.isSpelling_of_isName name)
    rw [get?_merged_of_other readsUser readsProject (userOptions_distinct s)
        (optionsAt_distinct _ _) other, readsUser.get?_extra_of_once userOnce,
      readsProject.get?_extra_of_once projectOnce, spelling]
    rfl

end Layers

/-- Each field comes from the place that counts most among those that set it, and what is passed on
are the other keys of both files, each from the file of the project if it is there. -/
theorem resolve_precedence (s : Surroundings) (flags : Flags) (options : Options)
    (resolved : resolve s flags = .ok options)
    (userOnce : ¬ Options.GivenTwice (userOptions s))
    (projectOnce : ¬ Options.GivenTwice (projectOptions s)) :
    Decided s Options.strictField flags.strict "SPECGRAPH_STRICT" options.strict ∧
    Decided s Options.viewerField flags.viewer "SPECGRAPH_VIEWER" options.viewer ∧
    Decided s Options.subOperationsField flags.addSubOperations "SPECGRAPH_ADD_SUB_OPERATIONS"
      options.addSubOperations ∧
    Object.Distinct options.extra ∧
    ∀ k, Object.get? options.extra k = if Options.isSpelling k then none
      else (Object.get? (projectOptions s) k).or (Object.get? (userOptions s) k) := by
  obtain ⟨user, project, set, r, readsUser, readsProject, environment, reads, rfl⟩ :=
    exists_of_resolve resolved
  obtain ⟨strict, viewer, subOperations⟩ := environmentFlags_eq_ok environment
  have layers {f : Field} {flag said : Option Bool} {b : Bool} {variableName : String} :=
    @decided _ s user project r set flags readsUser readsProject userOnce projectOnce reads f
      flag said b variableName
  refine ⟨layers ?_ ?_ ?_ strict, layers ?_ ?_ ?_ viewer, layers ?_ ?_ ?_ subOperations,
    reads.extra_distinct (merged_distinct _ _ _ _),
    get?_passed readsUser readsProject userOnce projectOnce reads⟩ <;>
    simp [Flags.values, Options.values]

end

def studio : Surroundings where
  system := "Linux"
  environment := [("HOME", "/home/me"), ("SPECGRAPH_VIEWER", "off")]
  directory := Path.ofText "/work"
  directories := []
  files := [
    (Path.ofText "/home/me/.config/specgraph/config.json",
      "\x7b\"options\": \x7b\"add_sub_operations\": false, \"strict\": true, \"theme\": 1\x7d\x7d".toUTF8),
    (Path.ofText "/work/specgraph.json",
      "\x7b\"options\": \x7b\"addSubOperations\": true, \"theme\": 2\x7d\x7d".toUTF8)]
  input := ""
  fetch := fun _ => .failure ""
  isTerminal := false

set_option maxRecDepth 100000 in
theorem studio_options : ∃ options, resolve studio ⟨some false, none, none⟩ = .ok options ∧
    Decided studio Options.strictField (some false) "SPECGRAPH_STRICT" false ∧
    Decided studio Options.viewerField none "SPECGRAPH_VIEWER" false ∧
    Decided studio Options.subOperationsField none "SPECGRAPH_ADD_SUB_OPERATIONS" true ∧
    Object.get? options.extra (.text "theme") =
      (Object.get? (projectOptions studio) (.text "theme")).or
        (Object.get? (userOptions studio) (.text "theme")) ∧
    (Object.get? (projectOptions studio) (.text "theme")).isSome = true := by
  have files : (¬ Options.GivenTwice (userOptions studio) ∧
      ¬ Options.GivenTwice (projectOptions studio)) ∧
      (Object.get? (projectOptions studio) (.text "theme")).isSome = true := by
    simp only [Options.GivenTwice, userOptions, projectOptions, optionsAt, Surroundings.text?,
      Surroundings.file?, String.contains_char_eq]
    decide +kernel
  obtain ⟨⟨userOnce, projectOnce⟩, theme⟩ := files
  obtain ⟨options, resolved, values⟩ := Except.exists_of_any
    (x := resolve studio ⟨some false, none, none⟩)
    (p := fun o => !o.strict && !o.viewer && o.addSubOperations) (by
      simp only [resolve, preferences, project, readJson, Surroundings.text?, Surroundings.file?,
        String.contains_char_eq]
      decide +kernel)
  simp only [Bool.and_eq_true, Bool.not_eq_true'] at values
  obtain ⟨⟨strict, viewer⟩, subOperations⟩ := values
  have places := resolve_precedence studio ⟨some false, none, none⟩ options resolved userOnce
    projectOnce
  rw [strict, viewer, subOperations] at places
  obtain ⟨byFlag, byVariable, byProject, _, passed⟩ := places
  exact ⟨options, resolved, byFlag, byVariable, byProject, passed (.text "theme"), theme⟩

end ApiOutline.Configuration
