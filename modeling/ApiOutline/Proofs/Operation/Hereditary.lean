import ApiOutline.Proofs.Operation.Declared
import ApiOutline.Proofs.Reference.Hereditary

/-! What an operation takes from its document: wherever its path, its references and its media types
lead, it comes to parts of the document. A property that a document passes on to its parts is one of
all these values. -/
namespace ApiOutline

theorem Payload.of_firstJson {o : Object} {v : Tree} (found : firstJson o = .ok v) :
    v = .null ∨ ∃ e ∈ o, e.2 = v := by
  induction o with
  | nil =>
    cases found
    exact .inl rfl
  | cons e es ih =>
    unfold firstJson at found
    split at found
    · cases found
      exact .inl rfl
    · rename_i entries
      cases entries
      split at found
      · cases found
        exact .inr ⟨_, List.mem_cons_self, rfl⟩
      · exact (ih found).imp_right fun ⟨d, hd, same⟩ => ⟨d, List.mem_cons_of_mem _ hd, same⟩
    · cases found
    · cases found

theorem Site.mem_of_findShown {p : String → Bool} {o : Object} {shown : String} {t : Tree}
    (found : findShown p o = .ok (some (shown, t))) : ∃ e ∈ o, e.2 = t := by
  induction o with
  | nil => cases found
  | cons e es ih =>
    obtain ⟨_, _, found⟩ := Except.bind_eq_ok.mp found
    split at found
    · cases found
      exact ⟨e, List.mem_cons_self, rfl⟩
    · obtain ⟨d, hd, same⟩ := ih found
      exact ⟨d, List.mem_cons_of_mem e hd, same⟩

namespace Tree.Hereditary

variable {P : Tree → Prop} {t v : Tree} {o : Object}

theorem inner (inherits : Hereditary P) {inside : Object} {name : String} (whole : P (.object o))
    (found : Object.inner o name = .ok inside) : P (.object inside) := by
  have value := inherits.field whole name
  unfold Object.inner at found
  dsimp only at found
  split at found
  · rename_i object
    cases found
    rw [object] at value
    exact inherits.object value
  · split at found
    · cases found
      exact inherits.empty
    · cases found

/-! ### Payloads -/

theorem ofContent (inherits : Hereditary P) (h : P t) (found : Payload.ofContent t = .ok v) :
    P v := by
  unfold Payload.ofContent at found
  split at found
  · dsimp only at found
    have media_field {media : Tree} (value : P media) : P (media.field "schema") :=
      inherits.field (inherits.entriesOrNone value) "schema"
    split at found
    · obtain ⟨media, chosen, found⟩ := Except.bind_eq_ok.mp found
      cases found
      rcases Payload.of_firstJson chosen with rfl | ⟨e, he, rfl⟩
      · exact media_field inherits.null
      · exact media_field (inherits.entry (inherits.object h) he)
    · cases found
      exact media_field (inherits.field (inherits.object h) _)
  · cases found
    exact inherits.null

/-! ### Sites -/

variable {s : Site}

variable [Machine]

theorem siteItem (inherits : Hereditary P) {item : Object} (whole : P s.root)
    (found : s.item = .ok item) : P (.object item) := by
  obtain ⟨paths, inner, found⟩ := Except.bind_eq_ok.mp found
  obtain ⟨t, resolved, found⟩ := Except.bind_eq_ok.mp found
  cases found
  have inside := inherits.inner whole inner
  exact inherits.entriesOrNone (inherits.resolve whole (inherits.getD inside s.path) resolved)

theorem endpoint (inherits : Hereditary P) {endpoint : Object} (whole : P s.root)
    (found : s.endpoint = .ok endpoint) : P (.object endpoint) := by
  obtain ⟨item, is_item, found⟩ := Except.bind_eq_ok.mp found
  obtain ⟨t, resolved, found⟩ := Except.bind_eq_ok.mp found
  cases found
  have inside := inherits.siteItem whole is_item
  exact inherits.entriesOrNone (inherits.resolve whole (inherits.getD inside s.method) resolved)

theorem responses (inherits : Hereditary P) {responses : Option Object} (whole : P s.root)
    (found : s.responses = .ok responses) : P (.object (responses.getD [])) := by
  obtain ⟨endpoint, is_endpoint, found⟩ := Except.bind_eq_ok.mp found
  split at found
  · cases found
    exact inherits.empty
  · rename_i t declared
    cases found
    exact inherits.entriesOrNone (inherits.get? (inherits.endpoint whole is_endpoint) declared)

theorem response (inherits : Hereditary P) {response : Object} (whole : P s.root)
    (found : s.response = .ok response) : P (.object response) := by
  obtain ⟨responses, declared, found⟩ := Except.bind_eq_ok.mp found
  have inside := inherits.responses whole declared
  obtain ⟨status, _, found⟩ := Except.bind_eq_ok.mp found
  split at found
  · cases found
    exact inherits.empty
  · obtain ⟨chosen, shown, found⟩ := Except.bind_eq_ok.mp found
    split at found
    · cases found
      exact inherits.empty
    · obtain ⟨u, resolved, found⟩ := Except.bind_eq_ok.mp found
      cases found
      obtain ⟨e, he, same⟩ := Site.mem_of_findShown (Except.lift_malformed_eq_ok.mp shown)
      have chosen := inherits.entry inside he
      rw [same] at chosen
      exact inherits.entriesOrNone (inherits.resolve whole chosen resolved)

theorem named (inherits : Hereditary P) {p : Payload} {required : Bool} (whole : P s.root)
    (h : P t) (found : s.named t required = .ok p) : P p.schema := by
  obtain ⟨name, _, found⟩ := Except.bind_eq_ok.mp found
  obtain ⟨resolved, reached, found⟩ := Except.bind_eq_ok.mp found
  cases found
  exact inherits.resolve whole h reached

theorem named_of_request (inherits : Hereditary P) {p : Payload} (whole : P s.root)
    (found : s.request = .ok p) : p.schema = .null ∧ p.hints = Hints.empty ∨
      ∃ t required, P t ∧ s.named t required = .ok p := by
  obtain ⟨endpoint, is_endpoint, found⟩ := Except.bind_eq_ok.mp found
  obtain ⟨body, resolved, found⟩ := Except.bind_eq_ok.mp found
  have inside := inherits.field (inherits.endpoint whole is_endpoint) "requestBody"
  have is_body := inherits.resolve whole inside resolved
  split at found
  · obtain ⟨schema, extracted, found⟩ := Except.bind_eq_ok.mp found
    have content := inherits.field (inherits.object is_body) "content"
    split at found
    · cases found
      exact .inl ⟨rfl, rfl⟩
    · exact .inr ⟨schema, _, inherits.ofContent content extracted, found⟩
  · cases found
    exact .inl ⟨rfl, rfl⟩

theorem named_of_result (inherits : Hereditary P) {p : Payload} (whole : P s.root)
    (found : s.result = .ok p) : p.schema = .null ∧ p.hints = Hints.empty ∨
      ∃ t required, P t ∧ s.named t required = .ok p := by
  obtain ⟨response, is_response, found⟩ := Except.bind_eq_ok.mp found
  obtain ⟨schema, extracted, found⟩ := Except.bind_eq_ok.mp found
  have content := inherits.field (inherits.response whole is_response) "content"
  split at found
  · cases found
    exact .inl ⟨rfl, rfl⟩
  · exact .inr ⟨schema, _, inherits.ofContent content extracted, found⟩

theorem request (inherits : Hereditary P) {p : Payload} (whole : P s.root)
    (found : s.request = .ok p) : P p.schema := by
  rcases inherits.named_of_request whole found with ⟨nothing, _⟩ | ⟨t, required, h, named⟩
  · exact nothing ▸ inherits.null
  · exact inherits.named whole h named

theorem result (inherits : Hereditary P) {p : Payload} (whole : P s.root)
    (found : s.result = .ok p) : P p.schema := by
  rcases inherits.named_of_result whole found with ⟨nothing, _⟩ | ⟨t, required, h, named⟩
  · exact nothing ▸ inherits.null
  · exact inherits.named whole h named

theorem requestSchema (inherits : Hereditary P) (whole : P s.root)
    (given : s.requestSchema = some t) : P t := by
  obtain ⟨p, found, rfl, _⟩ := Site.exists_of_schema given
  exact inherits.request whole found

theorem responseSchema (inherits : Hereditary P) (whole : P s.root)
    (given : s.responseSchema = some t) : P t := by
  obtain ⟨p, found, rfl, _⟩ := Site.exists_of_schema given
  exact inherits.result whole found

theorem payload (inherits : Hereditary P) {d : Declared} (whole : P d.site.root)
    (member : t ∈ d.payloads) : P t := by
  rcases List.mem_append.mp member with request | response
  · exact inherits.requestSchema whole (Option.mem_toList.mp request)
  · exact inherits.responseSchema whole (Option.mem_toList.mp response)

end Tree.Hereditary

end ApiOutline
