import ApiOutline.Configuration
import ApiOutline.Proofs.Json
import ApiOutline.Proofs.Options
import ApiOutline.Proofs.Tree.Hereditary

/-! The places that options come from, one over the other. Each file of configuration holds an
object of options, which may be empty; variables and flags set single fields on top of these. -/
namespace ApiOutline.Configuration

open ApiOutline.Tree (wellFormed_hereditary)

variable {s : Surroundings} {o : Object}

/-! ### Files -/

/-- The object of options in the JSON file at a path; an empty one if there is no such file, or no
such object in it. -/
def optionsAt [Machine] (s : Surroundings) (p : Path) : Object :=
  match s.text? p with
  | .ok (some text) =>
    match Json.read text.toList with
    | .ok t => (t.field "options").entriesOrNone
    | .error _ => []
  | _ => []

def userOptions [Machine] (s : Surroundings) : Object :=
  match preferencesPath s with
  | .ok p => optionsAt s p
  | .error _ => []

def projectOptions [Machine] (s : Surroundings) : Object := optionsAt s (projectPath s)

theorem readJson_eq_none [Machine] {label : String} {p : Path} (h : readJson s label p = .ok none) :
    optionsAt s p = [] := by
  obtain ⟨found, text, h⟩ := Except.bind_eq_ok.mp h
  cases found with
  | none => simp only [optionsAt, text]
  | some text =>
    dsimp only at h
    split at h
    · cases h
    · obtain ⟨_, _, h⟩ := Except.bind_eq_ok.mp h
      cases h

theorem readJson_eq_some [Machine] {label : String} {p : Path} {t : Tree}
    (h : readJson s label p = .ok (some t)) :
    t.wellFormed = true ∧ optionsAt s p = (t.field "options").entriesOrNone := by
  obtain ⟨found, text, h⟩ := Except.bind_eq_ok.mp h
  cases found with
  | none => cases h
  | some text =>
    dsimp only at h
    split at h
    · rename_i read
      cases h
      exact ⟨Json.wellFormed_of_read read, by simp only [optionsAt, text, read]⟩
    · obtain ⟨_, _, h⟩ := Except.bind_eq_ok.mp h
      cases h

theorem optionsAt_distinct [Machine] (s : Surroundings) (p : Path) : (optionsAt s p).Distinct := by
  unfold optionsAt
  split
  · split
    · rename_i t read
      have inside := wellFormed_hereditary.entriesOrNone (Json.wellFormed_of_read read)
      have options :=
        wellFormed_hereditary.entriesOrNone (wellFormed_hereditary.field inside "options")
      exact (Tree.wellFormed_object.mp options).1
    · exact List.nodup_nil
  · exact List.nodup_nil

theorem userOptions_distinct [Machine] (s : Surroundings) : (userOptions s).Distinct := by
  unfold userOptions
  split
  · exact optionsAt_distinct _ _
  · exact List.nodup_nil

theorem reads_of_preferences [Machine] {u : Preferences} (h : preferences s = .ok u) :
    ∃ r, Options.Reads (userOptions s) r ∧ r.options = u.options := by
  obtain ⟨p, path, h⟩ := Except.bind_eq_ok.mp h
  have place : userOptions s = optionsAt s p := by
    rw [userOptions, Except.lift_malformed_eq_ok.mp path]
  obtain ⟨found, document, h⟩ := Except.bind_eq_ok.mp h
  rw [place]
  cases found with
  | none =>
    cases h
    rw [readJson_eq_none document]
    exact ⟨_, Options.reads_nil, rfl⟩
  | some t =>
    rw [(readJson_eq_some document).2]
    dsimp only at h
    split at h
    · rename_i null
      cases h
      rw [Tree.eq_null_of_isNull null]
      exact ⟨_, Options.reads_nil, rfl⟩
    · cases read : Preferences.read t with
      | error report =>
        rw [read] at h
        cases h
      | ok u' =>
        rw [read] at h
        cases h
        exact Preferences.reads_of_read read

theorem projectOptions_eq [Machine] {p : Option Object} (found : project s = .ok p) :
    projectOptions s = (p.map fun p => (Object.field p "options").entriesOrNone).getD [] := by
  obtain ⟨t, document, found⟩ := Except.bind_eq_ok.mp found
  split at found
  · cases found
    exact readJson_eq_none document
  · cases found
    exact (readJson_eq_some document).2
  · split at found
    · rename_i null
      cases found
      have place := (readJson_eq_some document).2
      rwa [Tree.eq_null_of_isNull null] at place
    · cases found

theorem reads_of_overlay [Machine] {p : Option Object} {o' : Object} (found : project s = .ok p)
    (h : overlayProject o p = .ok o') : ∃ r, Options.Reads (projectOptions s) r ∧
      o' = setAll o (r.options.dump Options.Field.name r.given) := by
  -- Putting nothing over an object is reading the empty one.
  have nothing (empty : projectOptions s = []) (same : o' = o) :
      ∃ r, Options.Reads (projectOptions s) r ∧
        o' = setAll o (r.options.dump Options.Field.name r.given) := by
    rw [empty, same]
    exact ⟨_, Options.reads_nil, rfl⟩
  have place := projectOptions_eq found
  cases p with
  | none =>
    cases h
    exact nothing place rfl
  | some p =>
    change projectOptions s = (Object.field p "options").entriesOrNone at place
    unfold overlayProject at h
    dsimp only at h
    split at h
    · rename_i null
      cases h
      rw [Tree.eq_null_of_isNull null] at place
      exact nothing place rfl
    · split at h
      · rename_i r read
        cases h
        obtain ⟨block, loop, is_object, reads⟩ := Options.exists_of_read read
        rw [is_object] at place
        exact ⟨r, place ▸ reads, rfl⟩
      · cases h

/-! ### Variables and flags -/

def environmentFlag (s : Surroundings) (name : String) : Except Failure (Option Bool) :=
  match s.setting? name with
  | none => .ok none
  | some value => (truth value name).map some

def environmentFlags (s : Surroundings) : Except Failure Flags := do
  let strict ← environmentFlag s "SPECGRAPH_STRICT"
  let viewer ← environmentFlag s "SPECGRAPH_VIEWER"
  let subOperations ← environmentFlag s "SPECGRAPH_ADD_SUB_OPERATIONS"
  .ok ⟨strict, viewer, subOperations⟩

theorem overlayVariable_eq (s : Surroundings) (o : Object) (v : String × Options.Field) :
    overlayVariable s o v = (environmentFlag s v.1).map (setField o v.2) := by
  unfold overlayVariable environmentFlag
  cases s.setting? v.1 with
  | none => rfl
  | some value =>
    dsimp only
    generalize truth value v.1 = said
    cases said <;> rfl

theorem overlayVariables_eq (s : Surroundings) (o : Object) :
    optionVariables.foldlM (overlayVariable s) o = (environmentFlags s).map (overlayFlags o) := by
  simp only [optionVariables, List.foldlM_cons, List.foldlM_nil, overlayVariable_eq,
    environmentFlags]
  cases environmentFlag s "SPECGRAPH_STRICT" with
  | error e => rfl
  | ok strict =>
    cases environmentFlag s "SPECGRAPH_VIEWER" with
    | error e => rfl
    | ok viewer => cases environmentFlag s "SPECGRAPH_ADD_SUB_OPERATIONS" <;> rfl

/-- Options are read from an object that is put together from all places. -/
theorem resolve_eq [Machine] (s : Surroundings) (flags : Flags) : resolve s flags = (do
    let u ← preferences s
    let p ← project s
    let o ← overlayProject u.options.byName p
    let set ← environmentFlags s
    match Options.read (.object (overlayFlags (overlayFlags o set) flags)) with
    | .ok r => .ok r.options
    | .error faults => .error (.invalid ⟨"PreprocessOptions", faults⟩)) := by
  unfold resolve
  refine Except.bind_congr rfl fun u _ => Except.bind_congr rfl fun p _ =>
    Except.bind_congr rfl fun o _ => ?_
  rw [overlayVariables_eq]
  cases environmentFlags s <;> rfl

def Flags.values (flags : Flags) : List (Options.Field × Option Bool) :=
  [(Options.strictField, flags.strict), (Options.viewerField, flags.viewer),
    (Options.subOperationsField, flags.addSubOperations)]

theorem Flags.exists_mem_values (flags : Flags) {f : Options.Field} (hf : f ∈ Options.allFields) :
    ∃ flag, (f, flag) ∈ flags.values := by
  rcases List.mem_cons.mp hf with rfl | hf
  · exact ⟨flags.addSubOperations, by simp [values]⟩
  · rcases List.mem_pair.mp hf with rfl | rfl
    · exact ⟨flags.viewer, by simp [values]⟩
    · exact ⟨flags.strict, by simp [values]⟩

theorem Flags.subOperations_mem_values (flags : Flags) :
    (Options.subOperationsField, flags.addSubOperations) ∈ flags.values := by
  simp [values]

theorem get?_setField (o : Object) (f : Options.Field) (b : Option Bool) (k : Scalar) :
    Object.get? (setField o f b) k =
      if k = .text f.name then (b.map Tree.bool).or (Object.get? o k) else Object.get? o k := by
  cases b with
  | none => simp [setField]
  | some b =>
    have key : (Scalar.text f.name).identity = k.identity ↔ k = .text f.name :=
      eq_comm.trans Scalar.identity_eq_text
    simp only [setField, Object.get?_insert, key]
    rfl

theorem get?_overlayFlags {f : Options.Field} {b : Option Bool} {flags : Flags}
    (member : (f, b) ∈ flags.values) : Object.get? (overlayFlags o flags) (.text f.name) =
      (b.map Tree.bool).or (Object.get? o (.text f.name)) := by
  simp only [overlayFlags, get?_setField]
  simp only [Flags.values, List.mem_cons, Prod.mk.injEq, List.not_mem_nil, or_false] at member
  rcases member with ⟨rfl, rfl⟩ | ⟨rfl, rfl⟩ | ⟨rfl, rfl⟩ <;>
    simp [Options.strictField, Options.viewerField, Options.subOperationsField]

theorem get?_overlayFlags_of_other {flags : Flags} {k : Scalar} (other : Options.isName k = false) :
    Object.get? (overlayFlags o flags) k = Object.get? o k := by
  simp only [Options.isName, Options.allFields, List.any_cons, List.any_nil, Bool.or_eq_false_iff,
    beq_eq_false_iff_ne] at other
  obtain ⟨subOperations, viewer, strict, _⟩ := other
  simp only [overlayFlags, get?_setField, if_neg subOperations, if_neg viewer, if_neg strict]

/-! ### All places together -/

/-- The options of a project over those of a user, and variables and flags over both. -/
def merged (user project : Options.Reading) (set flags : Flags) : Object :=
  overlayFlags (overlayFlags (setAll user.options.byName
    (project.options.dump Options.Field.name project.given)) set) flags

theorem setField_distinct (distinct : o.Distinct) (f : Options.Field) (b : Option Bool) :
    (setField o f b).Distinct := by
  cases b with
  | none => exact distinct
  | some _ => exact distinct.insert

theorem overlayFlags_distinct (distinct : o.Distinct) (flags : Flags) :
    (overlayFlags o flags).Distinct :=
  setField_distinct (setField_distinct (setField_distinct distinct _ _) _ _) _ _

theorem merged_distinct (user project : Options.Reading) (set flags : Flags) :
    (merged user project set flags).Distinct :=
  overlayFlags_distinct
    (overlayFlags_distinct (Options.dump_distinct _ _).foldl_insert set) flags

section Merged

variable {user project : Options.Reading} {set flags : Flags} {ofUser ofProject : Object}
  (readsUser : Options.Reads ofUser user) (readsProject : Options.Reads ofProject project)
  (userDistinct : ofUser.Distinct) (projectDistinct : ofProject.Distinct)

include readsUser readsProject userDistinct projectDistinct

theorem get?_merged_of_other {k : Scalar} (other : Options.isName k = false) :
    Object.get? (merged user project set flags) k =
      (Object.get? project.options.extra k).or (Object.get? user.options.extra k) := by
  rw [merged, get?_overlayFlags_of_other other, get?_overlayFlags_of_other other, setAll,
    Object.get?_foldl_insert (Options.dump_distinct _ _), Options.byName,
    Options.get?_dump (readsUser.extra_distinct userDistinct),
    Options.get?_dump (readsProject.extra_distinct projectDistinct),
    Options.get?_shown_of_other other, Options.get?_shown_of_other other, Option.or_none,
    Option.or_none]

/-- The values that a field is given, and extra keys with its name, from what counts most on. -/
theorem get?_merged {f : Options.Field} {ofUser' ofProject' : Bool} {said flag : Option Bool}
    (inUser : (f, ofUser') ∈ user.options.values)
    (inProject : (f, ofProject') ∈ project.options.values) (inSet : (f, said) ∈ set.values)
    (inFlags : (f, flag) ∈ flags.values) :
    Object.get? (merged user project set flags) (.text f.name) =
      (flag.map Tree.bool).or ((said.map Tree.bool).or
        (((Object.get? project.options.extra (.text f.name)).or
            (if (f.given? ofProject).isSome then some (.bool ofProject') else none)).or
          ((Object.get? user.options.extra (.text f.name)).or (some (.bool ofUser'))))) := by
  rw [merged, get?_overlayFlags inFlags, get?_overlayFlags inSet, setAll,
    Object.get?_foldl_insert (Options.dump_distinct _ _),
    readsProject.get?_dump_given projectDistinct inProject,
    readsUser.get?_byName userDistinct inUser]

theorem get?_merged_camel {f : Options.Field} (hf : f ∈ Options.allFields)
    (different : f.camel ≠ f.name) :
    Object.get? (merged user project set flags) (.text f.camel) = none := by
  rw [get?_merged_of_other readsUser readsProject userDistinct projectDistinct
      (Options.isName_of_camel hf different),
    readsProject.get?_extra_camel hf, readsUser.get?_extra_camel hf]
  rfl

theorem read_merged {f : Options.Field} (hf : f ∈ Options.allFields) {t : Tree}
    (found : Object.get? (merged user project set flags) (.text f.name) = some t) :
    f.read (merged user project set flags) =
      (Options.truth t).mapError fun e => ⟨[.name f.name], e⟩ :=
  Options.Field.read_of_name found fun different =>
    get?_merged_camel readsUser readsProject userDistinct projectDistinct hf different

variable (set flags)

theorem not_givenTwice_merged : ¬ Options.GivenTwice (merged user project set flags) := by
  have hf : Options.subOperationsField ∈ Options.allFields := List.mem_cons_self
  have absent : Object.get? (merged user project set flags) (.text "addSubOperations") = none :=
    get?_merged_camel readsUser readsProject userDistinct projectDistinct hf (by decide)
  rintro ⟨there, _⟩
  rw [Object.has, absent] at there
  cases there

end Merged

/-- Once all files and variables are read, a run reads its options from all of them together. -/
theorem exists_of_places [Machine] {u : Preferences} {p : Option Object} {o : Object} {set : Flags}
    (preferred : preferences s = .ok u) (found : project s = .ok p)
    (overlay : overlayProject u.options.byName p = .ok o)
    (environment : environmentFlags s = .ok set) :
    ∃ user project, Options.Reads (userOptions s) user ∧ Options.Reads (projectOptions s) project ∧
      ∀ flags, resolve s flags =
        match Options.read (.object (merged user project set flags)) with
        | .ok r => .ok r.options
        | .error faults => .error (.invalid ⟨"PreprocessOptions", faults⟩) := by
  obtain ⟨ofUser, readsUser, same⟩ := reads_of_preferences preferred
  obtain ⟨ofProject, readsProject, rfl⟩ := reads_of_overlay found overlay
  refine ⟨ofUser, ofProject, readsUser, readsProject, fun flags => ?_⟩
  rw [resolve_eq, preferred, found]
  show (overlayProject u.options.byName p).bind _ = _
  rw [overlay, environment, merged, same]
  rfl

theorem exists_of_resolve [Machine] {flags : Flags} {options : Options}
    (resolved : resolve s flags = .ok options) : ∃ user project set r,
      Options.Reads (userOptions s) user ∧ Options.Reads (projectOptions s) project ∧
      environmentFlags s = .ok set ∧ Options.Reads (merged user project set flags) r ∧
      r.options = options := by
  have steps := resolved
  rw [resolve_eq] at steps
  obtain ⟨u, preferred, steps⟩ := Except.bind_eq_ok.mp steps
  obtain ⟨p, found, steps⟩ := Except.bind_eq_ok.mp steps
  obtain ⟨o, overlay, steps⟩ := Except.bind_eq_ok.mp steps
  obtain ⟨set, environment, _⟩ := Except.bind_eq_ok.mp steps
  obtain ⟨user, project, readsUser, readsProject, same⟩ :=
    exists_of_places preferred found overlay environment
  rw [same] at resolved
  split at resolved
  · rename_i r read
    cases resolved
    exact ⟨user, project, set, r, readsUser, readsProject, environment,
      Options.read_eq_ok.mp read, rfl⟩
  · cases resolved

theorem environmentFlag_eq_none {name : String} :
    environmentFlag s name = .ok none ↔ s.setting? name = none := by
  unfold environmentFlag
  cases s.setting? name with
  | none => exact ⟨fun _ => rfl, fun _ => rfl⟩
  | some value =>
    refine ⟨fun h => ?_, nofun⟩
    obtain ⟨_, _, h⟩ := Except.map_eq_ok.mp h
    cases h

theorem environmentFlag_eq_ok {name : String} {said : Option Bool}
    (h : environmentFlag s name = .ok said) : s.setting? name = none ∧ said = none ∨
      ∃ value b, s.setting? name = some value ∧ truth value name = .ok b ∧ said = some b := by
  unfold environmentFlag at h
  split at h
  · rename_i unset
    cases h
    exact .inl ⟨unset, rfl⟩
  · rename_i value is_set
    obtain ⟨b, parsed, rfl⟩ := Except.map_eq_ok.mp h
    exact .inr ⟨value, b, is_set, parsed, rfl⟩

theorem environmentFlags_eq_ok {set : Flags} (h : environmentFlags s = .ok set) :
    environmentFlag s "SPECGRAPH_STRICT" = .ok set.strict ∧
    environmentFlag s "SPECGRAPH_VIEWER" = .ok set.viewer ∧
    environmentFlag s "SPECGRAPH_ADD_SUB_OPERATIONS" = .ok set.addSubOperations := by
  obtain ⟨strict, first, h⟩ := Except.bind_eq_ok.mp h
  obtain ⟨viewer, second, h⟩ := Except.bind_eq_ok.mp h
  obtain ⟨subOperations, third, h⟩ := Except.bind_eq_ok.mp h
  cases h
  exact ⟨first, second, third⟩

end ApiOutline.Configuration
