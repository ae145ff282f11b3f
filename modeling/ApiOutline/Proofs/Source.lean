import ApiOutline.Source
import ApiOutline.Proofs.Document
import ApiOutline.Proofs.Surroundings

/-! Documents that are loaded, and why a source cannot be. One that cannot be reached, is blank or
holds no document is refused. No refusal is there for what the client of servers stops at, for bytes
that write no text, and for texts at which the readers of documents stop. -/
namespace ApiOutline

namespace Source

open Document (IsRefusal not_isRefusal_malformed)

variable {s : Surroundings} {source : String} {f : Failure} {what : Malformed}

inductive Unreadable (s : Surroundings) (source : String) : Malformed → Prop where
  | stop {what : Malformed} : isAddress source = true → s.fetch source = .stop what →
      Unreadable s source what
  | text {status : Int} {headers : List (String × String)} {what : Malformed} :
      isAddress source = true → s.fetch source = .response status headers (.error what) →
      200 ≤ status → status ≤ 299 → Unreadable s source what
  | file {what : Malformed} : source ≠ "-" → isAddress source = false →
      s.Unreadable (Path.ofText source) what → Unreadable s source what

theorem fetch_eq_error (is_address : isAddress source = true) :
    fetch s source = .error f ∧ ¬ IsRefusal f ↔
      ∃ what, f = .malformed what ∧ Unreadable s source what := by
  constructor
  · rintro ⟨h, other⟩
    unfold fetch at h
    split at h
    · rename_i what stopped
      cases h
      exact ⟨what, rfl, .stop is_address stopped⟩
    · cases h
      exact absurd ⟨_, rfl⟩ other
    · rename_i status headers text answer
      split at h
      · cases h
        exact absurd ⟨_, rfl⟩ other
      · rename_i inRange
        obtain h | ⟨_, _, h⟩ := Except.bind_eq_error.mp h
        · obtain ⟨what, rfl, rfl⟩ := Except.lift_malformed_eq_error.mp h
          exact ⟨what, rfl, .text is_address answer (by omega) (by omega)⟩
        · cases h
  · rintro ⟨what, rfl, unreadable⟩
    refine ⟨?_, not_isRefusal_malformed⟩
    cases unreadable with
    | stop _ stopped => simp only [fetch, stopped]
    | @text status headers _ _ answer least most =>
      have inRange : ¬ (status < 200 ∨ 299 < status) := by omega
      simp only [fetch, answer, if_neg inRange]
      rfl
    | file _ no_address _ => cases is_address.symm.trans no_address

theorem readFile_eq_error {path : String} : readFile s path = .error f ∧ ¬ IsRefusal f ↔
    ∃ what, f = .malformed what ∧ s.Unreadable (Path.ofText path) what := by
  constructor
  · rintro ⟨h, other⟩
    obtain h | ⟨text, _, h⟩ := Except.bind_eq_error.mp h
    · exact Surroundings.text?_eq_error.mp h
    · cases text with
      | none =>
        cases h
        exact absurd ⟨_, rfl⟩ other
      | some text => cases h
  · rintro ⟨what, rfl, unreadable⟩
    have broken := Surroundings.text?_eq_error.mpr ⟨what, rfl, unreadable⟩
    exact ⟨Except.bind_eq_error.mpr (.inl broken), not_isRefusal_malformed⟩

theorem read_eq_error : read s source = .error f ∧ ¬ IsRefusal f ↔
    ∃ what, f = .malformed what ∧ Unreadable s source what := by
  unfold read
  split
  · rename_i dash
    subst dash
    constructor
    · rintro ⟨⟨⟩, _⟩
    · rintro ⟨what, rfl, unreadable⟩
      have no_address : isAddress "-" = false := by decide
      cases unreadable with
      | stop is_address => cases no_address.symm.trans is_address
      | text is_address => cases no_address.symm.trans is_address
      | file no_dash => exact absurd rfl no_dash
  · rename_i no_dash
    split
    · rename_i is_address
      exact fetch_eq_error is_address
    · rename_i no_address
      rw [readFile_eq_error]
      refine exists_congr fun what => and_congr_right fun _ => ?_
      constructor
      · exact .file no_dash (Bool.eq_false_iff.mpr no_address)
      · intro unreadable
        cases unreadable with
        | stop is_address => exact absurd is_address no_address
        | text is_address => exact absurd is_address no_address
        | file _ _ unreadable => exact unreadable

section

variable [Machine]

theorem result_load (s : Surroundings) (source : String) :
    (load s source).result = (read s source >>= fun (content, form) =>
      if content.toList.all Text.isBlank then .error (.source (.blank source))
      else Document.parse form content) := by
  unfold load
  cases read s source with
  | error e => rfl
  | ok text =>
    obtain ⟨content, form⟩ := text
    rw [Logged.bind_of_ok (a := (content, form)) rfl]
    show Logged.result (if content.toList.all Text.isBlank then _ else _) =
      if content.toList.all Text.isBlank then _ else _
    split
    · rfl
    · rfl

theorem load_of_input {text : List Char} {document : Object} {loop : Option Nat}
    (given : s.input.toList = text) (shown : text.all Text.isBlank = false)
    (read : Json.read text = .ok (.object document loop)) :
    (load s "-").result = .ok document := by
  rw [result_load, Source.read, if_pos rfl]
  show (if s.input.toList.all Text.isBlank then _ else Document.parse .unknown s.input) = _
  rw [given, shown, if_neg Bool.false_ne_true, Document.parse, given, read]
  rfl

theorem wellFormed_of_load {document : Object} (h : (load s source).result = .ok document) :
    (Tree.object document).wellFormed = true := by
  rw [result_load] at h
  obtain ⟨⟨content, form⟩, _, h⟩ := Except.bind_eq_ok.mp h
  dsimp only at h
  split at h
  · cases h
  · exact Document.wellFormed_of_parse h

/-- What no run is prepared for when it loads a document. -/
inductive Unprepared (s : Surroundings) (source : String) : Malformed → Prop where
  | unreadable {what : Malformed} : Unreadable s source what → Unprepared s source what
  | stops {what : Malformed} {content : String} {form : Document.Form} :
      read s source = .ok (content, form) → content.toList.all Text.isBlank = false →
      Document.Stops form content.toList what → Unprepared s source what

/-- Every failure to load a document refuses its source, except those that no run is prepared
for. -/
theorem load_eq_error (s : Surroundings) (source : String) (f : Failure) :
    (load s source).result = .error f ∧ ¬ IsRefusal f ↔
      ∃ what, f = .malformed what ∧ Unprepared s source what := by
  rw [result_load]
  constructor
  · rintro ⟨h, other⟩
    obtain h | ⟨⟨content, form⟩, text, h⟩ := Except.bind_eq_error.mp h
    · obtain ⟨what, rfl, unreadable⟩ := read_eq_error.mp ⟨h, other⟩
      exact ⟨what, rfl, .unreadable unreadable⟩
    · dsimp only at h
      split at h
      · cases h
        exact absurd ⟨_, rfl⟩ other
      · rename_i shown
        obtain ⟨what, rfl, stops⟩ := Document.parse_eq_error.mp ⟨h, other⟩
        exact ⟨what, rfl, .stops text (Bool.eq_false_iff.mpr shown) stops⟩
  · rintro ⟨what, rfl, unprepared⟩
    refine ⟨?_, not_isRefusal_malformed⟩
    cases unprepared with
    | unreadable unreadable =>
      exact Except.bind_eq_error.mpr (.inl (read_eq_error.mpr ⟨what, rfl, unreadable⟩).1)
    | stops text shown stops =>
      refine Except.bind_eq_error.mpr (.inr ⟨_, text, ?_⟩)
      simp only [shown]
      exact (Document.parse_eq_error.mpr ⟨what, rfl, stops⟩).1

end

def shredder : Surroundings where
  system := "Linux"
  environment := []
  directory := Path.ofText "/work"
  directories := []
  files := [(Path.ofText "/work/spec.yaml", ⟨#[0xff]⟩)]
  input := ""
  fetch := fun _ => .failure ""
  isTerminal := false

theorem shredder_document :
    ∃ f, (load shredder "spec.yaml").result = .error f ∧ ¬ IsRefusal f := by
  refine ⟨.malformed .notUtf8, ?_, not_isRefusal_malformed⟩
  rw [result_load]
  simp only [read, readFile, Surroundings.text?, Surroundings.file?, String.contains_char_eq]
  rfl

end Source

end ApiOutline
