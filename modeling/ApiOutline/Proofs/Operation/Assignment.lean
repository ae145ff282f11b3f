import ApiOutline.Proofs.Definition.Distinct
import ApiOutline.Proofs.Operation.Declared

/-! The definitions that an operation gets. Each payload whose schema is an object is looked up or
added once, the request before the response, and also if the operation is left out afterwards. -/
namespace ApiOutline

open Catalog

namespace Payload

theorem objectSchema?_getD (p : Payload) : p.objectSchema?.getD .null =
    if !p.schema.isNull && p.schema.object?.isNone then .null else p.schema := by
  unfold objectSchema?
  rcases schema : p.schema with ⟨_ | _⟩ | _ | _ | _ | _ <;> rfl

end Payload

namespace Operation

variable {s : Site} {c c' : Catalog}

variable [Machine]

theorem outcome_of_assignRequest {request : Option Definition} {required : Bool}
    (h : (assignRequest Catalog.assign s c).result = .ok ((request, required), c')) :
    ∃ payload, s.request = .ok payload ∧
      Outcome c (s.requestSchema.getD .null) (some payload.hints) (.ok request) c' := by
  obtain ⟨payload, extracted, h⟩ := Logged.bind_eq_ok.mp h
  have schema : s.requestSchema.getD .null =
      if !payload.schema.isNull && payload.schema.object?.isNone then .null
      else payload.schema := by
    rw [Logged.result_lift] at extracted
    rw [Site.requestSchema, extracted]
    exact payload.objectSchema?_getD
  refine ⟨payload, extracted, ?_⟩
  rw [schema]
  generalize (!payload.schema.isNull && payload.schema.object?.isNone) = ignored at h ⊢
  cases ignored with
  | true =>
    obtain ⟨_, _, h⟩ := Logged.bind_eq_ok.mp h
    obtain ⟨⟨d, c₁⟩, assigned, h⟩ := Logged.bind_eq_ok.mp h
    cases h
    exact outcome_of_assign assigned
  | false =>
    obtain ⟨⟨d, c₁⟩, assigned, h⟩ := Logged.bind_eq_ok.mp h
    cases h
    exact outcome_of_assign assigned

theorem outcome_of_assignResponse {response : Option Definition}
    (h : (assignResponse Catalog.assign s c).result = .ok (response, c')) :
    ∃ payload, s.result = .ok payload ∧
      Outcome c (s.responseSchema.getD .null) (some payload.hints) (.ok response) c' := by
  obtain ⟨payload, extracted, h⟩ := Logged.bind_eq_ok.mp h
  have schema : s.responseSchema = payload.objectSchema? := by
    rw [Logged.result_lift] at extracted
    rw [Site.responseSchema, extracted]
    rfl
  refine ⟨payload, extracted, ?_⟩
  rw [schema, Payload.objectSchema?]
  split at h
  · rename_i o loop object
    rw [object] at h ⊢
    exact outcome_of_assign h
  · rename_i other
    obtain ⟨_, _, h⟩ := Logged.bind_eq_ok.mp h
    cases h
    have none : payload.schema.object?.isSome = false := by
      cases found : payload.schema with
      | object o loop => exact absurd found (other o loop)
      | _ => rfl
    rw [none]
    exact .absent rfl

/-- What an operation takes from its site, apart from its payloads. -/
structure Reads (options : Options) (s : Site) (method : Method) (endpoint : Object)
    (o : Operation) : Prop where
  id : identify s endpoint = .ok o.id
  path : s.path.display = .ok o.path
  method : o.method = method
  description : o.description = describe endpoint
  parameters : s.parameters = .ok o.parameters
  links : s.links = .ok o.links
  security : ∃ keys, (if options.viewer then s.security else .ok []) = .ok keys ∧
    requireTexts keys = .ok o.security
  subOperations : o.subOperations = none

/-- An operation is built in three parts, of which only the payloads leave notes. -/
theorem ofSite_eq_mk {options : Options} {method : Method} {endpoint : Object}
    {notes : List Note} {built : Option Operation}
    (run : ofSite Catalog.assign options s method endpoint c = ⟨notes, .ok (built, c')⟩) :
    ∃ before request required middle after response,
      assignRequest Catalog.assign s c = ⟨before, .ok ((request, required), middle)⟩ ∧
      assignResponse Catalog.assign s middle = ⟨after, .ok (response, c')⟩ ∧
      notes = before ++ after ∧
      (built = none ∧ response = none ∨
        ∃ o, built = some o ∧ Reads options s method endpoint o ∧ o.request = request ∧
          o.requestRequired = required ∧ response = some o.response) := by
  obtain ⟨before, ⟨⟨request, required⟩, middle⟩, _, assigned_request, rest, rfl⟩ :=
    Logged.bind_eq_mk.mp run
  obtain ⟨after, ⟨response, last⟩, final, assigned_response, rest, rfl⟩ :=
    Logged.bind_eq_mk.mp rest
  cases response with
  | none =>
    cases rest
    exact ⟨before, request, required, middle, after, none, assigned_request, assigned_response,
      by simp, .inl ⟨rfl, rfl⟩⟩
  | some d =>
    have asked : (if options.viewer then Logged.ofExcept s.security else pure []) =
        (liftM (if options.viewer then s.security else .ok []) : Logged (List Scalar)) := by
      split <;> rfl
    dsimp only at rest
    rw [← apply_ite (· >>= _), asked] at rest
    obtain ⟨keys, asked, rest⟩ := Logged.lift_bind_eq_mk.mp rest
    obtain ⟨parameters, has_parameters, rest⟩ := Logged.lift_bind_eq_mk.mp rest
    obtain ⟨links, has_links, rest⟩ := Logged.lift_bind_eq_mk.mp rest
    obtain ⟨id, has_id, rest⟩ := Logged.lift_malformed_bind_eq_mk.mp rest
    obtain ⟨path, has_path, rest⟩ := Logged.lift_malformed_bind_eq_mk.mp rest
    obtain ⟨security, has_security, rest⟩ := Logged.lift_bind_eq_mk.mp rest
    cases rest
    refine ⟨before, request, required, middle, after, some d, assigned_request, assigned_response,
      by simp, .inr ⟨_, rfl, ?_, rfl, rfl, rfl⟩⟩
    exact ⟨has_id, has_path, rfl, rfl, has_parameters, has_links, ⟨keys, asked, has_security⟩, rfl⟩

theorem Reads.names {options : Options} {v : Declared} {o : Operation}
    (reads : Reads options v.site v.method v.endpoint o) : v.Names o :=
  ⟨reads.id, reads.path, reads.method⟩

/-- Both payloads get their definitions before an operation is built. It is left out if its
response gets none. -/
theorem outcome_of_ofSite {options : Options} {v : Declared} {built : Option Operation}
    (h : (ofSite Catalog.assign options v.site v.method v.endpoint c).result = .ok (built, c')) :
    ∃ request response middle asked answered,
      v.site.request = .ok asked ∧ v.site.result = .ok answered ∧
      Outcome c (v.site.requestSchema.getD .null) (some asked.hints) (.ok request) middle ∧
      Outcome middle (v.site.responseSchema.getD .null) (some answered.hints) (.ok response) c' ∧
      (built = none ∧ response = none ∨
        ∃ o, built = some o ∧ v.Names o ∧ o.request = request ∧ response = some o.response) := by
  obtain ⟨_, request, _, middle, _, response, assigned_request, assigned_response, _, ending⟩ :=
    ofSite_eq_mk (Logged.eq_mk_of_result h)
  obtain ⟨asked, is_request, outcome_request⟩ :=
    outcome_of_assignRequest (congrArg Logged.result assigned_request)
  obtain ⟨answered, is_result, outcome_response⟩ :=
    outcome_of_assignResponse (congrArg Logged.result assigned_response)
  refine ⟨request, response, middle, asked, answered, is_request, is_result, outcome_request,
    outcome_response, ?_⟩
  rcases ending with left | ⟨o, some_o, reads, same_request, _, same_response⟩
  · exact .inl left
  · exact .inr ⟨o, some_o, reads.names, same_request, same_response⟩

end Operation

end ApiOutline
