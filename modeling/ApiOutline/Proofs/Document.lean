import ApiOutline.Document
import ApiOutline.Proofs.Json
import ApiOutline.Proofs.Yaml

/-! Texts that are documents, and why a text is none. Most texts that are none are refused with a
reason. The readers of JSON and YAML stop at some others, for which the wording of no refusal is
there. -/
namespace ApiOutline

inductive Json.Excess [Machine] (text : List Char) : Malformed → Prop where
  | longInteger : Json.read text = .error .longInteger → Excess text .longInteger
  | tooDeep : Json.read text = .error .tooDeep → Excess text .tooDeep

theorem Json.Excess.read_eq_error [Machine] {text : List Char} {what : Malformed}
    (h : Json.Excess text what) : ∃ e, Json.read text = .error e := by
  cases h with
  | longInteger stops => exact ⟨_, stops⟩
  | tooDeep stops => exact ⟨_, stops⟩

namespace Document

variable {text : List Char} {form : Form} {f : Failure} {what : Malformed}

theorem wellFormed_of_requireObject {t : Tree} {o : Object} (formed : t.wellFormed = true)
    (h : requireObject t = .ok o) : (Tree.object o).wellFormed = true := by
  cases t with
  | object o loop =>
    cases h
    exact formed
  | _ => cases h

variable [Machine]

theorem wellFormed_of_parseYaml {json : Option String} {o : Object}
    (h : parseYaml json text = .ok o) : (Tree.object o).wellFormed = true := by
  unfold parseYaml at h
  split at h
  · rename_i read
    exact wellFormed_of_requireObject (Yaml.wellFormed_of_read read) h
  · cases h
  · cases h

/-- No object of a document has two keys of one identity, whichever form its text has. -/
theorem wellFormed_of_parse {content : String} {o : Object} (h : parse form content = .ok o) :
    (Tree.object o).wellFormed = true := by
  unfold parse at h
  dsimp only at h
  split at h
  · exact wellFormed_of_parseYaml h
  · split at h
    · rename_i read
      exact wellFormed_of_requireObject (Json.wellFormed_of_read read) h
    · obtain ⟨message, _, h⟩ := Except.bind_eq_ok.mp h
      split at h
      · cases h
      · exact wellFormed_of_parseYaml h

def IsRefusal (f : Failure) : Prop := ∃ fault, f = .source fault

omit [Machine] in
theorem not_isRefusal_malformed : ¬ IsRefusal (.malformed what) := by
  rintro ⟨_, ⟨⟩⟩

omit [Machine] in
theorem jsonFault_eq_ok {e : Json.Fault} {message : String}
    (worded : jsonFault text e = .ok message) :
    ∃ missing remaining, e = .unexpected missing remaining := by
  cases e with
  | unexpected missing remaining => exact ⟨missing, remaining, rfl⟩
  | longInteger => cases worded
  | tooDeep => cases worded

theorem jsonFault_eq_error {e : Json.Fault} (read : Json.read text = .error e) :
    jsonFault text e = .error f ↔ ∃ what, f = .malformed what ∧ Json.Excess text what := by
  constructor
  · intro h
    cases e with
    | unexpected _ _ => cases h
    | longInteger =>
      cases h
      exact ⟨.longInteger, rfl, .longInteger read⟩
    | tooDeep =>
      cases h
      exact ⟨.tooDeep, rfl, .tooDeep read⟩
  · rintro ⟨_, rfl, excess⟩
    cases excess with
    | longInteger stops =>
      cases read.symm.trans stops
      rfl
    | tooDeep stops =>
      cases read.symm.trans stops
      rfl

/-- What the readers stop at. JSON is not tried on a text that is known to be YAML. YAML is not
tried on one that is known to be JSON, nor on one that is JSON, or at which the reader of JSON
stops. -/
inductive Stops (form : Form) (text : List Char) : Malformed → Prop where
  | json {what : Malformed} : form ≠ .yaml → Json.Excess text what → Stops form text what
  | yaml {what : Malformed} : form = .yaml → Yaml.read text = .error (.unprepared what) →
      Stops form text what
  | yamlAfterJson {what : Malformed} {missing : Json.Expectation} {remaining : Nat} :
      form = .unknown → Json.read text = .error (.unexpected missing remaining) →
      Yaml.read text = .error (.unprepared what) → Stops form text what

omit [Machine] in
theorem requireObject_eq_error {t : Tree} (h : requireObject t = .error f) : IsRefusal f := by
  cases t with
  | object o loop => cases h
  | _ =>
    cases h
    exact ⟨_, rfl⟩

theorem parseYaml_eq_error {json : Option String} : parseYaml json text = .error f ∧ ¬ IsRefusal f ↔
    ∃ what, f = .malformed what ∧ Yaml.read text = .error (.unprepared what) := by
  constructor
  · rintro ⟨h, other⟩
    unfold parseYaml at h
    split at h
    · exact absurd (requireObject_eq_error h) other
    · rename_i what stops
      cases h
      exact ⟨what, rfl, stops⟩
    · cases h
      exact absurd ⟨_, rfl⟩ other
  · rintro ⟨what, rfl, stops⟩
    refine ⟨?_, not_isRefusal_malformed⟩
    simp only [parseYaml, stops]

/-- Parsing a text refuses it if it is no document, unless one of the readers stops at it. -/
theorem parse_eq_error {content : String} : parse form content = .error f ∧ ¬ IsRefusal f ↔
    ∃ what, f = .malformed what ∧ Stops form content.toList what := by
  constructor
  · rintro ⟨h, other⟩
    unfold parse at h
    dsimp only at h
    split at h
    · rename_i is_yaml
      obtain ⟨what, rfl, stops⟩ := parseYaml_eq_error.mp ⟨h, other⟩
      exact ⟨what, rfl, .yaml is_yaml stops⟩
    · rename_i not_yaml
      split at h
      · exact absurd (requireObject_eq_error h) other
      · rename_i e read
        obtain h | ⟨message, worded, h⟩ := Except.bind_eq_error.mp h
        · obtain ⟨what, rfl, excess⟩ := (jsonFault_eq_error read).mp h
          exact ⟨what, rfl, .json not_yaml excess⟩
        · split at h
          · cases h
            exact absurd ⟨_, rfl⟩ other
          · rename_i not_json
            obtain ⟨what, rfl, stops⟩ := parseYaml_eq_error.mp ⟨h, other⟩
            -- Only a fault with a wording leads on from JSON to YAML.
            obtain ⟨missing, remaining, rfl⟩ := jsonFault_eq_ok worded
            cases form with
            | json => exact absurd rfl not_json
            | yaml => exact absurd rfl not_yaml
            | unknown => exact ⟨what, rfl, .yamlAfterJson rfl read stops⟩
  · rintro ⟨what, rfl, stops⟩
    refine ⟨?_, not_isRefusal_malformed⟩
    have yaml {json : Option String}
        (stops : Yaml.read content.toList = .error (.unprepared what)) :
        parseYaml json content.toList = .error (.malformed what) :=
      (parseYaml_eq_error.mpr ⟨what, rfl, stops⟩).1
    cases stops with
    | json not_yaml excess =>
      obtain ⟨e, read⟩ := excess.read_eq_error
      simp only [parse, if_neg not_yaml, read]
      exact Except.bind_eq_error.mpr (.inl ((jsonFault_eq_error read).mpr ⟨what, rfl, excess⟩))
    | yaml is_yaml stops =>
      simp only [parse, if_pos is_yaml]
      exact yaml stops
    | yamlAfterJson is_unknown read stops =>
      subst is_unknown
      simp only [parse, read]
      exact yaml stops

end Document

end ApiOutline
