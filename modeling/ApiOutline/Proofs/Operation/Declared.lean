import ApiOutline.Outline
import ApiOutline.Proofs.Log
import ApiOutline.Proofs.Reference

/-! The operations that a document declares, in their order, and the schemas of their payloads. Only
objects count as schemas. -/
namespace ApiOutline

namespace Payload

def objectSchema? (p : Payload) : Option Tree :=
  if p.schema.object?.isSome then some p.schema else none

theorem objectSchema?_eq_some {p : Payload} {t : Tree} (h : p.objectSchema? = some t) :
    p.schema = t ∧ ∃ o loop, t = .object o loop := by
  unfold objectSchema? at h
  split at h
  · rename_i object
    cases h
    cases schema : p.schema with
    | object o loop => exact ⟨rfl, o, loop, rfl⟩
    | _ => simp [schema, Tree.object?] at object
  · cases h

end Payload

namespace Site

variable {s : Site} {p : Payload}

variable [Machine]

def requestSchema (s : Site) : Option Tree := s.request.toOption.bind Payload.objectSchema?

def responseSchema (s : Site) : Option Tree := s.result.toOption.bind Payload.objectSchema?

theorem of?_of_named {schema : Tree} {required : Bool} (h : s.named schema required = .ok p) :
    Reference.of? p.schema = none := by
  obtain ⟨name, _, h⟩ := Except.bind_eq_ok.mp h
  obtain ⟨resolved, found, h⟩ := Except.bind_eq_ok.mp h
  cases h
  exact Reference.of?_of_resolve found

theorem named_of_request (h : s.request = .ok p) :
    p.schema = .null ∨ ∃ schema required, s.named schema required = .ok p := by
  obtain ⟨endpoint, _, h⟩ := Except.bind_eq_ok.mp h
  obtain ⟨body, _, h⟩ := Except.bind_eq_ok.mp h
  split at h
  · obtain ⟨schema, _, h⟩ := Except.bind_eq_ok.mp h
    split at h
    · cases h
      exact .inl rfl
    · exact .inr ⟨schema, _, h⟩
  · cases h
    exact .inl rfl

theorem named_of_result (h : s.result = .ok p) :
    p.schema = .null ∨ ∃ schema required, s.named schema required = .ok p := by
  obtain ⟨response, _, h⟩ := Except.bind_eq_ok.mp h
  obtain ⟨schema, _, h⟩ := Except.bind_eq_ok.mp h
  split at h
  · cases h
    exact .inl rfl
  · exact .inr ⟨schema, _, h⟩

theorem of?_of_request (h : s.request = .ok p) : Reference.of? p.schema = none := by
  rcases named_of_request h with absent | ⟨schema, required, named⟩
  · rw [absent]
    rfl
  · exact of?_of_named named

theorem of?_of_result (h : s.result = .ok p) : Reference.of? p.schema = none := by
  rcases named_of_result h with absent | ⟨schema, required, named⟩
  · rw [absent]
    rfl
  · exact of?_of_named named

/-- What a schema of a payload is: an object that is no reference. -/
def IsSchema (t : Tree) : Prop :=
  ∃ o loop, t = .object o loop ∧ Object.get? o (.text "$ref") = none

omit [Machine] in
theorem exists_of_schema {r : Except Failure Payload} {t : Tree}
    (h : r.toOption.bind Payload.objectSchema? = some t) :
    ∃ p, r = .ok p ∧ p.schema = t ∧ ∃ o loop, t = .object o loop := by
  cases r with
  | error e => cases h
  | ok p => exact ⟨p, rfl, Payload.objectSchema?_eq_some h⟩

omit [Machine] in
theorem isSchema_of_toOption {r : Except Failure Payload} {t : Tree}
    (plain : ∀ p, r = .ok p → Reference.of? p.schema = none)
    (h : r.toOption.bind Payload.objectSchema? = some t) : IsSchema t := by
  obtain ⟨p, found, schema, o, loop, rfl⟩ := exists_of_schema h
  have plain := plain p found
  rw [schema] at plain
  exact ⟨o, loop, rfl, plain⟩

omit [Machine] in
theorem IsSchema.given {t : Tree} (h : IsSchema t) : t.isNull = false := by
  obtain ⟨o, loop, rfl, _⟩ := h
  rfl

theorem isSchema_of_requestSchema {t : Tree} (h : s.requestSchema = some t) : IsSchema t :=
  isSchema_of_toOption (fun _ => of?_of_request) h

theorem isSchema_of_responseSchema {t : Tree} (h : s.responseSchema = some t) : IsSchema t :=
  isSchema_of_toOption (fun _ => of?_of_result) h

end Site

/-- An operation as a document declares it: a method that is a key of a path's item, with an object
under it. -/
structure Declared where
  site : Site
  method : Method
  endpoint : Object

namespace Declared

variable [Machine]

def payloads (v : Declared) : List Tree :=
  v.site.requestSchema.toList ++ v.site.responseSchema.toList

/-- Whether an id is that of the operation. One whose response has no schema is left out. -/
def Claims (v : Declared) (id : String) : Prop :=
  v.site.responseSchema.isSome ∧ Operation.identify v.site v.endpoint = .ok id

/-- Whether an operation is called what its declaration calls it. -/
structure Names (v : Declared) (o : Operation) : Prop where
  id : Operation.identify v.site v.endpoint = .ok o.id
  path : v.site.path.display = .ok o.path
  method : o.method = v.method

def ofEntry (document : Object) (path : Scalar) (entry : Scalar × Tree) : List Declared :=
  match Method.ofKey? entry.1, entry.2 with
  | some method, .object endpoint _ => [⟨⟨document, path, entry.1⟩, method, endpoint⟩]
  | _, _ => []

def ofPath (document : Object) (entry : Scalar × Tree) : List Declared :=
  match Reference.resolve (.object document) entry.2 with
  | .ok (.object methods _) => methods.flatMap (ofEntry document entry.1)
  | _ => []

def ofDocument (document : Object) : List Declared :=
  match Object.inner document "paths" with
  | .ok paths => paths.flatMap (ofPath document)
  | .error _ => []

omit [Machine] in
theorem ofEntry_of_method {document : Object} {path : Scalar} {entry : Scalar × Tree}
    {method : Method} {endpoint : Object} {loop : Option Nat}
    (is_method : Method.ofKey? entry.1 = some method)
    (is_object : entry.2 = .object endpoint loop) :
    ofEntry document path entry = [⟨⟨document, path, entry.1⟩, method, endpoint⟩] := by
  simp only [ofEntry, is_method, is_object]

omit [Machine] in
theorem ofEntry_of_other {document : Object} {path : Scalar} {entry : Scalar × Tree}
    (other : ∀ method endpoint loop, Method.ofKey? entry.1 = some method →
      entry.2 ≠ .object endpoint loop) : ofEntry document path entry = [] := by
  unfold ofEntry
  split
  · rename_i method endpoint loop is_method is_object
    exact absurd is_object (other method endpoint loop is_method)
  · rfl

/-- Where an operation is declared: under a key of the item that an entry of the paths stands
for. -/
inductive Place (document : Object) : Declared → Prop where
  | under {paths methods : Object} {path : Scalar × Tree} {key : Scalar} {method : Method}
      {endpoint : Object} {loop loop' : Option Nat} :
      Object.inner document "paths" = .ok paths → path ∈ paths →
      Reference.resolve (.object document) path.2 = .ok (.object methods loop) →
      (key, .object endpoint loop') ∈ methods → Method.ofKey? key = some method →
      Place document ⟨⟨document, path.1, key⟩, method, endpoint⟩

theorem place_of_mem {document : Object} {v : Declared} (member : v ∈ ofDocument document) :
    Place document v := by
  unfold ofDocument at member
  split at member
  · rename_i paths found
    obtain ⟨path, inside, member⟩ := List.mem_flatMap.mp member
    unfold ofPath at member
    split at member
    · rename_i methods loop resolved
      obtain ⟨⟨key, t⟩, declared, member⟩ := List.mem_flatMap.mp member
      unfold ofEntry at member
      split at member
      · rename_i method endpoint loop' is_method is_object
        cases List.mem_singleton.mp member
        dsimp only at is_object
        subst is_object
        exact .under found inside resolved declared is_method
      · cases member
    · cases member
  · cases member

theorem site_of_mem {document : Object} {v : Declared} (member : v ∈ ofDocument document) :
    v.site.document = document ∧ ∃ paths, Object.inner document "paths" = .ok paths ∧
      ∃ entry ∈ paths, v.site.path = entry.1 := by
  obtain ⟨found, inside⟩ := place_of_mem member
  exact ⟨rfl, _, found, _, inside, rfl⟩

theorem isSchema_of_mem {vs : List Declared} {t : Tree} (h : t ∈ vs.flatMap payloads) :
    Site.IsSchema t := by
  obtain ⟨v, _, member⟩ := List.mem_flatMap.mp h
  rcases List.mem_append.mp member with request | response
  · exact Site.isSchema_of_requestSchema (Option.mem_toList.mp request)
  · exact Site.isSchema_of_responseSchema (Option.mem_toList.mp response)

end Declared

end ApiOutline
