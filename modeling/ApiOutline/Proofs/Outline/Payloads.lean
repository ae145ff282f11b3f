import ApiOutline.Proofs.Operation.Assignment
import ApiOutline.Proofs.Entries
import ApiOutline.Proofs.Outline.Visits

/-! What an outline makes of the payloads that its document declares. Its definitions are the
schemas of all payloads without repetitions, and its operations have those of their own payloads. -/
namespace ApiOutline.Outline

open Catalog (Outcome Assigned)
open ApiOutline.Tree (distinct)

variable {vs past future : List Declared} {v w : Declared} {p : Progress} {c c' : Catalog}
  {e : String × Operation}

section

variable [Machine]

/-- Where an operation comes from: the last one with its id that is not left out. Its definitions
are those that its payloads got after the payloads before them. -/
structure Origin (c : Catalog) (past : List Declared) (v : Declared) (future : List Declared)
    (e : String × Operation) : Prop where
  key : e.1 = e.2.id
  names : v.Names e.2
  request : Assigned c (past.flatMap Declared.payloads) v.site.requestSchema e.2.request
  response : Assigned c (past.flatMap Declared.payloads ++ v.site.requestSchema.toList)
    v.site.responseSchema (some e.2.response)
  last : ∀ w ∈ future, ¬ w.Claims e.1

theorem Origin.extend (origin : Origin c past v future e) (more : c.definitions <+: c'.definitions)
    (other : ¬ w.Claims e.1) : Origin c' past v (future ++ [w]) e where
  key := origin.key
  names := origin.names
  request := origin.request.extend more
  response := origin.response.extend more
  last := fun u hu => (List.mem_append.mp hu).elim (origin.last u) fun hu =>
    List.mem_singleton.mp hu ▸ other

theorem Origin.claims_iff (origin : Origin c past v future e) (id : String) :
    v.Claims id ↔ id = e.1 := by
  have given : v.site.responseSchema.isSome = true := by
    obtain ⟨_, _, _, response, _⟩ := origin
    generalize v.site.responseSchema = schema at response
    cases response
    rfl
  rw [Declared.Claims, origin.names.id, origin.key, Except.ok.injEq]
  exact ⟨fun claims => claims.2.symm, fun same => ⟨given, same.symm⟩⟩

/-- What is found, after some operations that a document declares. -/
structure Follows (vs : List Declared) (p : Progress) : Prop where
  named : p.catalog.Named
  schemas : p.catalog.schemas = distinct (vs.flatMap Declared.payloads)
  unique : (Entries.keys p.operations).Nodup
  claimed : ∀ id, id ∈ Entries.keys p.operations ↔ ∃ v ∈ vs, v.Claims id
  origins : ∀ e ∈ p.operations, ∃ past v future, vs = past ++ v :: future ∧
    Origin p.catalog past v future e

theorem follows_nothing : Follows [] ⟨Catalog.empty, []⟩ where
  named := Catalog.empty_named
  schemas := rfl
  unique := List.nodup_nil
  claimed := by simp [Entries.keys]
  origins := by simp

structure Grown (vs : List Declared) (v : Declared) (c c' : Catalog) : Prop where
  named : c'.Named
  schemas : c'.schemas = distinct ((vs ++ [v]).flatMap Declared.payloads)
  more : c.definitions <+: c'.definitions

theorem Follows.assign (follows : Follows vs p) {middle : Catalog} {first second : Option Hints}
    {request response : Option Definition}
    (for_request :
      Outcome p.catalog (v.site.requestSchema.getD .null) first (.ok request) middle)
    (for_response :
      Outcome middle (v.site.responseSchema.getD .null) second (.ok response) c') :
    Grown vs v p.catalog c' ∧
      Assigned c' (vs.flatMap Declared.payloads) v.site.requestSchema request ∧
      Assigned c' (vs.flatMap Declared.payloads ++ v.site.requestSchema.toList)
        v.site.responseSchema response := by
  have given_request (t : Tree) (h : v.site.requestSchema = some t) : t.isNull = false :=
    (Site.isSchema_of_requestSchema h).given
  have given_response (t : Tree) (h : v.site.responseSchema = some t) : t.isNull = false :=
    (Site.isSchema_of_responseSchema h).given
  obtain ⟨schemas, assigned_request⟩ := for_request.assigned given_request follows.schemas
  obtain ⟨schemas', assigned_response⟩ := for_response.assigned given_response schemas
  have more := for_response.definitions_extend
  refine ⟨⟨?_, ?_, ?_⟩, assigned_request.extend more, assigned_response⟩
  · exact (follows.named.outcome for_request).outcome for_response
  · simpa [Declared.payloads] using schemas'
  · exact for_request.definitions_extend.trans more

theorem Follows.leave (follows : Follows vs p) (grown : Grown vs v p.catalog c')
    (nothing : v.site.responseSchema = none) :
    Follows (vs ++ [v]) { p with catalog := c' } where
  named := grown.named
  schemas := grown.schemas
  unique := follows.unique
  claimed id := by
    rw [follows.claimed]
    simp [Declared.Claims, nothing, or_and_right, exists_or]
  origins e he := by
    obtain ⟨past, u, future, rfl, origin⟩ := follows.origins e he
    refine ⟨past, u, future ++ [v], by simp, origin.extend grown.more fun claims => ?_⟩
    simp [Declared.Claims, nothing] at claims

theorem Follows.store (follows : Follows vs p) {o : Operation} (grown : Grown vs v p.catalog c')
    (origin : Origin c' vs v [] (o.id, o)) :
    Follows (vs ++ [v]) ⟨c', Entries.insert o.id o p.operations⟩ where
  named := grown.named
  schemas := grown.schemas
  unique := Entries.nodup_keys_insert follows.unique
  claimed id := by
    rw [Entries.mem_keys_insert, follows.claimed]
    simp [origin.claims_iff, or_and_right, exists_or, or_comm]
  origins e he := by
    rcases Entries.mem_insert follows.unique he with rfl | ⟨old, other⟩
    · exact ⟨vs, v, [], rfl, origin⟩
    · obtain ⟨past, u, future, rfl, origin'⟩ := follows.origins e old
      refine ⟨past, u, future ++ [v], by simp, origin'.extend grown.more fun claims => other ?_⟩
      exact (origin.claims_iff e.1).mp claims

omit [Machine] in
theorem eq_of_add {s : Site} {o : Operation} {p' : Progress} (h : (p.add s o).result = .ok p') :
    p' = ⟨p.catalog, Entries.insert o.id o p.operations⟩ := by
  unfold Progress.add at h
  split at h
  · obtain ⟨_, _, h⟩ := Logged.bind_eq_ok.mp h
    cases h
    rfl
  · cases h
    rfl

/-- One visit finds what the declaration of an operation adds. -/
theorem Follows.visit {options : Options} {p' : Progress} (follows : Follows vs p)
    (run : (v.visit options p).result = .ok p') : Follows (vs ++ [v]) p' := by
  obtain ⟨⟨built, c'⟩, found, rest⟩ := Logged.bind_eq_ok.mp run
  obtain ⟨request, response, middle, _, _, _, _, for_request, for_response, left⟩ :=
    Operation.outcome_of_ofSite found
  obtain ⟨grown, assigned_request, assigned_response⟩ :=
    follows.assign for_request for_response
  rcases left with ⟨rfl, rfl⟩ | ⟨o, rfl, names, rfl, rfl⟩
  · cases rest
    exact follows.leave grown assigned_response.eq_none
  · rw [eq_of_add rest]
    refine follows.store grown ⟨rfl, names, assigned_request, assigned_response, ?_⟩
    exact fun w hw => absurd hw List.not_mem_nil

/-- Visits follow the operations that the document declares. -/
theorem follows_of_visit {document : Object} {options : Options}
    (run : (visit Catalog.assign document options).result = .ok p) :
    Follows (Declared.ofDocument document) p := by
  have whole := Logged.eq_mk_of_result run
  rw [visit_eq run] at whole
  exact Logged.foldlM_trace (P := fun vs _ p => Follows vs p) follows_nothing
    (fun _ _ _ _ _ _ _ follows step => follows.visit (congrArg Logged.result step)) whole

/-- The operations of an outline are those that were found, save for their sub-operations. -/
theorem mem_operations {document : Object} {options : Options} {o : Outline}
    (run : (ofDocument document options).result = .ok o) :
    ∃ p, (visit Catalog.assign document options).result = .ok p ∧ o.catalog = p.catalog ∧
      Entries.keys o.operations = Entries.keys p.operations ∧
      ∀ e ∈ o.operations, ∃ found ∈ p.operations, e.1 = found.1 ∧
        e.2 = { found.2 with subOperations := e.2.subOperations } := by
  obtain ⟨_, p, _, _, _, visited, _, _, _, catalog, operations⟩ :=
    ofDocument_eq_mk (Logged.eq_mk_of_result run)
  refine ⟨p, congrArg Logged.result visited, catalog, ?_⟩
  rw [operations]
  split
  · refine ⟨by simp [Entries.keys, nest, Entries.mapValues], fun e he => ?_⟩
    obtain ⟨found, member, rfl⟩ := List.mem_map.mp he
    exact ⟨found, member, rfl, rfl⟩
  · exact ⟨rfl, fun e he => ⟨e, he, rfl, rfl⟩⟩

theorem nodup_keys_operations {document : Object} {options : Options} {o : Outline}
    (run : (ofDocument document options).result = .ok o) :
    (Entries.keys o.operations).Nodup := by
  obtain ⟨p, visited, _, keys, _⟩ := mem_operations run
  exact keys ▸ (follows_of_visit visited).unique

/-- Sub-operations change nothing about where an operation comes from. -/
theorem origin_of_mem {document : Object} {options : Options} {o : Outline}
    (run : (ofDocument document options).result = .ok o) (he : e ∈ o.operations) :
    ∃ past v future, Declared.ofDocument document = past ++ v :: future ∧
      Origin o.catalog past v future e := by
  obtain ⟨p, visited, catalog, _, operations⟩ := mem_operations run
  obtain ⟨found, member, key, value⟩ := operations e he
  obtain ⟨past, v, future, split, origin⟩ := (follows_of_visit visited).origins found member
  rw [catalog]
  refine ⟨past, v, future, split, ?_, ⟨?_, ?_, ?_⟩, ?_, ?_, ?_⟩
  · rw [key, value, origin.key]
  · rw [value, origin.names.id]
  · rw [value, origin.names.path]
  · rw [value, origin.names.method]
  · rw [value]
    exact origin.request
  · rw [value]
    exact origin.response
  · rw [key]
    exact origin.last

/-- The definitions of an outline are the schemas of its document's payloads, in their order,
without those that are equal to an earlier one that stays. None of them is a reference. Every
operation comes from the last one declared with its id, and its definitions are those that its own
payloads got. -/
theorem definitions_of_payloads (document : Object) (options : Options) (o : Outline)
    (succeeds : (ofDocument document options).result = .ok o) :
    o.catalog.schemas = distinct ((Declared.ofDocument document).flatMap Declared.payloads) ∧
    (∀ d ∈ o.catalog.definitions, Site.IsSchema d.schema) ∧
    (Entries.keys o.operations).Nodup ∧
    (∀ id, id ∈ Entries.keys o.operations ↔ ∃ v ∈ Declared.ofDocument document, v.Claims id) ∧
    ∀ e ∈ o.operations, ∃ past v future, Declared.ofDocument document = past ++ v :: future ∧
      Origin o.catalog past v future e := by
  obtain ⟨p, visited, catalog, keys, _⟩ := mem_operations succeeds
  have follows := follows_of_visit visited
  have schemas : o.catalog.schemas = distinct _ := catalog ▸ follows.schemas
  rw [keys]
  refine ⟨schemas, fun d hd => ?_, follows.unique, follows.claimed,
    fun e he => origin_of_mem succeeds he⟩
  have kept : d.schema ∈ o.catalog.schemas := List.mem_map_of_mem hd
  rw [schemas] at kept
  exact Declared.isSchema_of_mem (Tree.distinct_subset _ kept)

end

def answer (schema : Tree) : Tree :=
  .record [("200", .record [("content",
    .record [("application/json", .record [("schema", schema)])])])]

def order : Tree :=
  .record [("content", .record [("application/json",
    .record [("schema", .record [("title", .text "Order")])])])]

/-- One path is a reference to the other one. Its operations are declared twice: the second `pets`
replaces the first one, and the operations without a response are left out. -/
def shop : Object :=
  [(.text "paths", .record [
    ("/pets", .record [
      ("get", .record [("operationId", .text "pets"),
        ("responses", answer (.record [("$ref", .text "#/components/schemas/Pet")]))]),
      ("post", .record [("requestBody", order)])]),
    ("/all", .record [("$ref", .text "#/paths/~1pets")])]),
   (.text "components", .record [("schemas",
    .record [("Pet", .record [("type", .text "object")])])])]

theorem shop_definitions : ∃ o, (ofDocument shop Options.usual).result = .ok o ∧
    (Declared.ofDocument shop).length = 4 ∧
    o.catalog.definitions.map (·.objectName) = ["Pet", "Order"] ∧
    o.catalog.schemas = distinct ((Declared.ofDocument shop).flatMap Declared.payloads) := by
  obtain ⟨o, succeeds, names⟩ := Except.exists_of_any
    (x := (ofDocument shop Options.usual).result)
    (p := fun o => o.catalog.definitions.map (·.objectName) == ["Pet", "Order"])
    (by decide +kernel)
  exact ⟨o, succeeds, by decide +kernel, by simpa using names,
    (definitions_of_payloads shop Options.usual o succeeds).1⟩

end ApiOutline.Outline
