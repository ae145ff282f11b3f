import ApiOutline.Proofs.Operation.Route
import ApiOutline.Proofs.Outline.Independence
import ApiOutline.Proofs.Outline.TypeNames
import ApiOutline.Summary

/-! What the summary of an outline says about its operations. Definitions are told by their names
there, and operations by their ids, so a link leads to one entry if its name is that of just one
definition, or its id is that of an operation. -/
namespace ApiOutline

theorem List.filter_eq_singleton {α β : Type} [BEq β] [LawfulBEq β] {f : α → β} {l : List α} {a : α}
    (distinct : (l.map f).Nodup) (member : a ∈ l) : l.filter (f · == f a) = [a] := by
  induction l with
  | nil => cases member
  | cons b l ih =>
    obtain ⟨absent, distinct⟩ := List.nodup_cons.mp distinct
    rcases List.mem_cons.mp member with rfl | later
    · have others : l.filter (f · == f a) = [] := by
        refine List.filter_eq_nil_iff.mpr fun c hc same => absent ?_
        exact List.mem_map.mpr ⟨c, hc, eq_of_beq same⟩
      simp [others]
    · have other : f b ≠ f a := fun same => absent (same ▸ List.mem_map_of_mem later)
      simp [other, ih distinct later]

/-! ### Parts -/

theorem Parameter.exists_summary [Machine] {p : Parameter} :
    (∃ t, p.summary = .ok t) ↔ ∃ t, p.schemaTree.portable = .ok t := by
  simp [Parameter.summary, Except.bind_eq_ok]

theorem Link.exists_summary [Machine] {l : Link} : (∃ t, l.summary = .ok t) ↔
    (∃ t, (Tree.object l.parameters).portable = .ok t) ∧ ∃ t, l.requestBody.portable = .ok t := by
  simp [Link.summary, Except.bind_eq_ok]

namespace Operation

variable {o : Operation} {t : Tree}

variable [Machine]

/-- Whether all schemas and links of an operation have a form that plain JSON can hold. -/
structure IsPortable (o : Operation) : Prop where
  parameters : ∀ p ∈ o.parameters, ∃ t, p.schemaTree.portable = .ok t
  links : ∀ l ∈ o.links,
    (∃ t, (Tree.object l.parameters).portable = .ok t) ∧ ∃ t, l.requestBody.portable = .ok t

theorem exists_summary : (∃ t, o.summary = .ok t) ↔ o.IsPortable := by
  have parts : (∃ t, o.summary = .ok t) ↔
      (∃ ts, o.parameters.mapM Parameter.summary = .ok ts) ∧
        ∃ ts, o.links.mapM Link.summary = .ok ts := by
    simp [Operation.summary, Except.bind_eq_ok]
  rw [parts, Except.exists_mapM_eq_ok, Except.exists_mapM_eq_ok]
  simp only [Parameter.exists_summary, Link.exists_summary]
  exact ⟨fun h => ⟨h.1, h.2⟩, fun h => ⟨h.parameters, h.links⟩⟩

structure Shows (t : Tree) (o : Operation) : Prop where
  path : t.field "path" = .text o.path
  method : t.field "method" = .text o.method.word
  request : t.field "request" = .textOrNull (o.request.map (·.objectName))
  response : t.field "response" = .text o.response.objectName
  subOperations : t.field "subOperations" = (o.subOperations.map Tree.textList).getD .null

theorem shows_of_summary (shown : o.summary = .ok t) : Shows t o := by
  obtain ⟨parameters, _, shown⟩ := Except.bind_eq_ok.mp shown
  obtain ⟨links, _, shown⟩ := Except.bind_eq_ok.mp shown
  cases shown
  exact ⟨rfl, rfl, rfl, rfl, rfl⟩

end Operation

namespace Outline

variable {document : Object} {options : Options} {o : Outline} {t : Tree}
  {e : String × Operation}

def definitionsCalled (t : Tree) (name : String) : List Tree :=
  ((t.field "definitions").list?.getD []).filter fun d =>
    (d.field "objectTypeName").text? == some name

def operationCalled? (t : Tree) (id : String) : Option Tree :=
  Object.get? (t.field "operations").entriesOrNone (.text id)

def LeadsTo (t link : Tree) (d : Definition) : Prop :=
  ∃ name entry, link = .text name ∧ definitionsCalled t name = [entry] ∧
    entry.field "schema" = d.schema ∧ entry.field "inputTypeName" = .text d.inputName

/-- An id in a summary that is the one of another operation, a GET operation whose path contains
the given one. -/
def LeadsBelow (t : Tree) (id path sub : String) : Prop :=
  sub ≠ id ∧ ∃ other below, operationCalled? t sub = some other ∧
    other.field "method" = .text "get" ∧ other.field "path" = .text below ∧
    path.toList <:+: below.toList

/-- An operation as a summary shows it, with links that lead where they should. -/
structure Linked (t : Tree) (e : String × Operation) (shown : Tree) : Prop where
  found : operationCalled? t e.1 = some shown
  path : shown.field "path" = .text e.2.path
  response : LeadsTo t (shown.field "response") e.2.response
  request : e.2.request = none ∧ shown.field "request" = .null ∨
    ∃ d, e.2.request = some d ∧ LeadsTo t (shown.field "request") d
  subOperations : shown.field "subOperations" = .null ∨
    ∃ ids, shown.field "subOperations" = .textList ids ∧ ids.Nodup ∧
      ∀ sub ∈ ids, LeadsBelow t e.1 e.2.path sub

/-! ### The whole summary -/

theorem exists_summary [Machine] : (∃ t, o.summary = .ok t) ↔
    (∀ e ∈ o.operations, e.2.IsPortable) ∧ ∃ t, o.options.summary = .ok t := by
  have parts : (∃ t, o.summary = .ok t) ↔
      (∃ ts, o.operationSummaries = .ok ts) ∧ ∃ t, o.options.summary = .ok t := by
    simp [Outline.summary, Except.bind_eq_ok]
  rw [parts, operationSummaries, Except.exists_mapM_eq_ok]
  simp [Except.bind_eq_ok, ← Operation.exists_summary]

/-- A summary lists the definitions, and the summaries of operations under their ids. -/
structure Lists (t : Tree) (o : Outline) : Prop where
  definitions : t.field "definitions" = .list (o.catalog.definitions.map Definition.summary)
  operations : ∃ fields, t.field "operations" = .record fields ∧
    Entries.keys fields = Entries.keys o.operations ∧
    ∀ e ∈ o.operations, ∃ shown, (e.1, shown) ∈ fields ∧ Operation.Shows shown e.2

theorem lists_of_summary [Machine] (shown : o.summary = .ok t) : Lists t o := by
  obtain ⟨fields, listed, shown⟩ := Except.bind_eq_ok.mp shown
  obtain ⟨_, _, shown⟩ := Except.bind_eq_ok.mp shown
  cases shown
  have pairs :
      List.Forall₂ (fun e f => f.1 = e.1 ∧ Operation.Shows f.2 e.2) o.operations fields := by
    refine (Except.forall₂_of_mapM listed).imp fun e f found => ?_
    obtain ⟨summary, made, same⟩ := Except.bind_eq_ok.mp found
    cases same
    exact ⟨rfl, Operation.shows_of_summary made⟩
  refine ⟨rfl, fields, rfl, ?_, fun e he => ?_⟩
  · refine List.ext_get (by simp [Entries.keys, pairs.length_eq]) fun i hi hi' => ?_
    simp only [Entries.keys, List.length_map, List.get_eq_getElem, List.getElem_map] at hi hi' ⊢
    exact (pairs.get hi' hi).1
  · obtain ⟨i, hi, rfl⟩ := List.mem_iff_getElem.mp he
    have hi' : i < fields.length := pairs.length_eq ▸ hi
    obtain ⟨key, shows⟩ := pairs.get hi hi'
    exact ⟨_, key ▸ List.getElem_mem hi', shows⟩

theorem Lists.keys_operations (lists : Lists t o) :
    (t.field "operations").entriesOrNone.map (·.1) = (Entries.keys o.operations).map .text := by
  obtain ⟨fields, operations, keys, _⟩ := lists.operations
  rw [operations, Tree.keys_record, keys]

theorem Lists.operationCalled? (lists : Lists t o) (distinct : (Entries.keys o.operations).Nodup)
    (he : e ∈ o.operations) :
    ∃ shown, operationCalled? t e.1 = some shown ∧ Operation.Shows shown e.2 := by
  obtain ⟨fields, operations, keys, listed⟩ := lists.operations
  obtain ⟨shown, member, shows⟩ := listed e he
  refine ⟨shown, ?_, shows⟩
  rw [Outline.operationCalled?, operations]
  exact Tree.get?_record (keys ▸ distinct) member

theorem Lists.definitionsCalled_eq (lists : Lists t o) (name : String) : definitionsCalled t name =
    (o.catalog.definitions.filter (·.objectName == name)).map Definition.summary := by
  unfold definitionsCalled
  rw [lists.definitions, Tree.list?, Option.getD_some, List.filter_map]
  exact congrArg _ (List.filter_congr fun _ _ => rfl)

theorem Lists.leadsTo (lists : Lists t o) (named : o.catalog.Named) {d : Definition}
    (member : d ∈ o.catalog.definitions) : LeadsTo t (.text d.objectName) d := by
  refine ⟨d.objectName, d.summary, rfl, ?_, rfl, rfl⟩
  rw [lists.definitionsCalled_eq, List.filter_eq_singleton named.objectNames_nodup member]
  rfl

theorem subOperations_of_on [Machine] (succeeds : (ofDocument document options).result = .ok o)
    (on : options.addSubOperations = true) (he : e ∈ o.operations) : e.2.subOperations =
      some (e.2.toRoute.subOperations (o.operations.map (·.2.toRoute))) := by
  obtain ⟨_, p, _, _, _, _, _, _, _, _, operations⟩ :=
    ofDocument_eq_mk (Logged.eq_mk_of_result succeeds)
  rw [on, if_pos rfl] at operations
  have routes : o.operations.map (·.2.toRoute) = p.operations.map (·.2.toRoute) := by
    rw [operations]
    simp [nest, Entries.mapValues]
  rw [routes]
  rw [operations] at he
  obtain ⟨found, _, rfl⟩ := List.mem_map.mp he
  rfl

theorem subOperations_of_mem [Machine] (succeeds : (ofDocument document options).result = .ok o)
    (he : e ∈ o.operations) : e.2.subOperations = none ∨
      e.2.subOperations = some (e.2.toRoute.subOperations (o.operations.map (·.2.toRoute))) := by
  cases nested : options.addSubOperations with
  | true => exact .inr (subOperations_of_on succeeds nested he)
  | false =>
    obtain ⟨_, p, _, _, _, visited, _, _, _, _, operations⟩ :=
      ofDocument_eq_mk (Logged.eq_mk_of_result succeeds)
    rw [operations, nested] at he
    exact .inl (fits_of_visit (congrArg Logged.result visited) e he).subOperations

theorem Lists.leadsBelow (lists : Lists t o) (distinct : (Entries.keys o.operations).Nodup)
    (keys : ∀ e ∈ o.operations, e.1 = e.2.id) (he : e ∈ o.operations) {sub : String}
    (member : sub ∈ e.2.toRoute.subOperations (o.operations.map (·.2.toRoute))) :
    LeadsBelow t e.1 e.2.path sub := by
  obtain ⟨_, _, route, inside, rfl, other, method, below⟩ := Route.mem_subOperations.mp member
  obtain ⟨f, hf, rfl⟩ := List.mem_map.mp inside
  obtain ⟨shown, found, shows⟩ := lists.operationCalled? distinct hf
  rw [keys f hf] at found
  refine ⟨?_, shown, _, found, ?_, shows.path, below⟩
  · rw [keys e he]
    exact other
  · rw [shows.method, method]
    rfl

theorem Lists.linked [Machine] (lists : Lists t o)
    (succeeds : (ofDocument document options).result = .ok o)
    (he : e ∈ o.operations) : ∃ shown, Linked t e shown := by
  have named := catalog_named succeeds
  have distinct := nodup_keys_operations succeeds
  have keys : ∀ f ∈ o.operations, f.1 = f.2.id := by
    intro f hf
    obtain ⟨_, _, _, _, origin⟩ := origin_of_mem succeeds hf
    exact origin.key
  obtain ⟨_, _, _, _, origin⟩ := origin_of_mem succeeds he
  obtain ⟨shown, found, shows⟩ := lists.operationCalled? distinct he
  refine ⟨shown, found, shows.path, ?_, ?_, ?_⟩
  · rw [shows.response]
    exact lists.leadsTo named origin.response.mem
  · rw [shows.request]
    have assigned := origin.request
    generalize e.2.request = request at assigned
    cases request with
    | none => exact .inl ⟨rfl, rfl⟩
    | some d => exact .inr ⟨d, rfl, lists.leadsTo named assigned.mem⟩
  · rw [shows.subOperations]
    rcases subOperations_of_mem succeeds he with off | on
    · rw [off]
      exact .inl rfl
    · rw [on]
      refine .inr ⟨_, rfl, ?_, fun sub member => lists.leadsBelow distinct keys he member⟩
      have ids : o.operations.map (·.2.id) = Entries.keys o.operations :=
        List.map_congr_left fun f hf => (keys f hf).symm
      refine (Route.subOperations_sublist _ _).nodup ?_
      rw [List.map_map]
      exact ids ▸ distinct

/-- An outline has a summary exactly if all it holds has a form that plain JSON can hold. The
summary shows every operation under its id. What it names as the response and the request of an
operation is listed once among the definitions, and what it names as a sub-operation is another
operation, a GET operation below the first one's path. -/
theorem summary_keeps_links [Machine] (document : Object) (options : Options) (o : Outline)
    (succeeds : (ofDocument document options).result = .ok o) :
    ((∃ t, o.summary = .ok t) ↔
      (∀ e ∈ o.operations, e.2.IsPortable) ∧ ∃ t, o.options.summary = .ok t) ∧
    ∀ t, o.summary = .ok t →
      (t.field "operations").entriesOrNone.map (·.1) = (Entries.keys o.operations).map .text ∧
      ∀ e ∈ o.operations, ∃ shown, Linked t e shown := by
  refine ⟨exists_summary, fun t shown => ?_⟩
  have lists := lists_of_summary shown
  exact ⟨lists.keys_operations, fun e he => lists.linked succeeds he⟩

def club : Object :=
  let responses := answer (.record [("title", .text "User")])
  [(.text "paths", .record [
    ("/users/\x7bid\x7d", .record [
      ("get", .record [("operationId", .text "user"), ("responses", responses)]),
      ("put", .record [("operationId", .text "change"), ("requestBody", order),
        ("responses", responses)])]),
    ("/users/\x7bid\x7d/friends", .record [
      ("get", .record [("operationId", .text "friends"), ("responses", responses)])])])]

theorem club_summary : ∃ o t e shown, (ofDocument club ⟨true, true, false, []⟩).result = .ok o ∧
    o.summary = .ok t ∧ e ∈ o.operations ∧ e.1 = "user" ∧
    e.2.subOperations = some ["friends"] ∧ Linked t e shown := by
  let links := [("user", some ["friends"]), ("change", some []), ("friends", some [])]
  obtain ⟨o, succeeds, found⟩ := Except.exists_of_any
    (x := (ofDocument club ⟨true, true, false, []⟩).result)
    (p := fun o => o.operations.map (fun e => (e.1, e.2.subOperations)) == links &&
      o.summary.toOption.any fun _ => true) (by decide +kernel)
  obtain ⟨listed, has_summary⟩ := (Bool.and_eq_true _ _).mp found
  obtain ⟨t, shown, _⟩ := Except.exists_of_any has_summary
  have first : ("user", some ["friends"]) ∈ links := List.mem_cons_self
  obtain ⟨e, he, same⟩ := List.mem_map.mp (eq_of_beq listed ▸ first)
  obtain ⟨id, below⟩ := Prod.mk.inj same
  have kept := summary_keeps_links club ⟨true, true, false, []⟩ o succeeds
  obtain ⟨entry, linked⟩ := (kept.2 t shown).2 e he
  exact ⟨o, t, e, entry, succeeds, shown, he, id, below, linked⟩

end Outline

end ApiOutline
