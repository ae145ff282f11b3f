import ApiOutline.Proofs.Operation.Hereditary
import ApiOutline.Proofs.Outline.Payloads

/-! The object that an operation is read from. A run comes to an operation by visiting the entries
of its document. All parts of the operation but its id and its description are read from what is
found by looking up its path and its method once more. Both ways lead to one object exactly if the
method does not hold a reference. -/
namespace ApiOutline

open ApiOutline.Tree (wellFormed_hereditary)

theorem Site.get?_ref_of_endpoint [Machine] {s : Site} {endpoint : Object}
    (found : s.endpoint = .ok endpoint) : Object.get? endpoint (.text "$ref") = none := by
  obtain ⟨item, _, found⟩ := Except.bind_eq_ok.mp found
  obtain ⟨t, resolved, found⟩ := Except.bind_eq_ok.mp found
  cases found
  have plain := Reference.of?_of_resolve resolved
  cases t with
  | object o loop => exact plain
  | _ => rfl

namespace Declared

variable {document : Object} {v w : Declared}

variable [Machine]

theorem Place.method_eq (place : Place document v) :
    Method.ofKey? v.site.method = some v.method := by
  obtain @⟨_, _, _, _, _, _, _, _, _, _, _, _, is_method⟩ := place
  exact is_method

theorem Place.item (place : Place document v) (formed : (Tree.object document).wellFormed = true) :
    ∃ item loop, v.site.item = .ok item ∧
      Object.get? item v.site.method = some (.object v.endpoint loop) := by
  obtain @⟨paths, methods, path, key, method, endpoint, loop, loop', found, inside, resolved,
    declared, _⟩ := place
  have paths_formed := wellFormed_hereditary.inner formed found
  have path_formed := wellFormed_hereditary.entry paths_formed inside
  have item_formed := wellFormed_hereditary.resolve formed path_formed resolved
  have same_path := Object.get?_of_mem (Tree.wellFormed_object.mp paths_formed).1 inside
  have same_key := Object.get?_of_mem (Tree.wellFormed_object.mp item_formed).1 declared
  refine ⟨methods, loop', ?_, same_key⟩
  refine Except.bind_eq_ok.mpr ⟨paths, found, ?_⟩
  refine Except.bind_eq_ok.mpr ⟨.object methods loop, ?_, rfl⟩
  rw [same_path]
  exact resolved

theorem Place.endpoint (place : Place document v)
    (formed : (Tree.object document).wellFormed = true) : ∃ loop,
      v.site.endpoint = (v.site.resolve (.object v.endpoint loop)).map Tree.entriesOrNone := by
  obtain ⟨item, loop, is_item, found⟩ := place.item formed
  refine ⟨loop, ?_⟩
  rw [Site.endpoint, is_item]
  show (v.site.resolve ((Object.get? item v.site.method).getD .null) >>= _) = _
  rw [found, Option.getD_some]
  cases v.site.resolve (.object v.endpoint loop) <;> rfl

theorem Place.endpoint_of_plain (place : Place document v)
    (formed : (Tree.object document).wellFormed = true)
    (plain : Object.get? v.endpoint (.text "$ref") = none) : v.site.endpoint = .ok v.endpoint := by
  obtain ⟨loop, found⟩ := place.endpoint formed
  have itself : v.site.resolve (.object v.endpoint loop) = .ok (.object v.endpoint loop) :=
    Reference.resolve_of_plain plain
  rw [found, itself]
  rfl

/-- An operation is read from the very object under its method exactly if that is no reference. -/
theorem Place.endpoint_eq_iff {endpoint : Object} (place : Place document v)
    (formed : (Tree.object document).wellFormed = true) (found : v.site.endpoint = .ok endpoint) :
    endpoint = v.endpoint ↔ Object.get? v.endpoint (.text "$ref") = none := by
  constructor
  · rintro rfl
    exact Site.get?_ref_of_endpoint found
  · intro plain
    exact Except.ok.inj (found.symm.trans (place.endpoint_of_plain formed plain))

theorem eq_of_site (formed : (Tree.object document).wellFormed = true)
    (hv : v ∈ ofDocument document) (hw : w ∈ ofDocument document) (same : v.site = w.site) :
    v = w := by
  obtain ⟨item, loop, is_item, found⟩ := (place_of_mem hv).item formed
  obtain ⟨item', loop', is_item', found'⟩ := (place_of_mem hw).item formed
  have is_method := (place_of_mem hv).method_eq
  rw [same] at is_item found is_method
  cases is_item.symm.trans is_item'
  obtain ⟨site, method, endpoint⟩ := v
  obtain ⟨site', method', endpoint'⟩ := w
  cases found.symm.trans found'
  cases is_method.symm.trans (place_of_mem hw).method_eq
  cases same
  rfl

end Declared

namespace Operation

/-- Whether an operation has the id and the description that an endpoint gives it. -/
structure TitledBy (o : Operation) (s : Site) (endpoint : Object) : Prop where
  id : identify s endpoint = .ok o.id
  description : o.description = describe endpoint

/-- Whatever else an operation has is read from its endpoint, but its id and its description are
those that the object under its method gives. The two are one object exactly if that is no
reference, whether its path is one or not. If it is a reference, the endpoint gives this id and this
description only if it gives the same ones as the entries beside the reference. -/
theorem titledBy_endpoint_iff [Machine] (document : Object) (options : Options) (v : Declared)
    (c c' : Catalog) (o : Operation) (formed : (Tree.object document).wellFormed = true)
    (declared : v ∈ Declared.ofDocument document)
    (built : (ofSite Catalog.assign options v.site v.method v.endpoint c).result =
      .ok (some o, c')) :
    ∃ endpoint, v.site.endpoint = .ok endpoint ∧ o.TitledBy v.site v.endpoint ∧
      (endpoint = v.endpoint ↔ Object.get? v.endpoint (.text "$ref") = none) ∧
      (o.TitledBy v.site endpoint ↔ identify v.site endpoint = identify v.site v.endpoint ∧
        describe endpoint = describe v.endpoint) := by
  obtain ⟨_, _, _, _, _, _, assigned, _, _, ending⟩ := ofSite_eq_mk (Logged.eq_mk_of_result built)
  obtain ⟨payload, extracted, _⟩ := Logged.bind_eq_ok.mp (congrArg Logged.result assigned)
  obtain ⟨endpoint, found, _⟩ := Except.bind_eq_ok.mp extracted
  obtain ⟨⟨⟩, _⟩ | ⟨_, ⟨⟩, reads, _⟩ := ending
  have titled : o.TitledBy v.site v.endpoint := ⟨reads.id, reads.description⟩
  refine ⟨endpoint, found, titled, ?_, ?_⟩
  · exact (Declared.place_of_mem declared).endpoint_eq_iff formed found
  · constructor
    · intro also
      exact ⟨also.id.trans titled.id.symm, also.description.symm.trans titled.description⟩
    · rintro ⟨id, description⟩
      exact ⟨id.trans titled.id, titled.description.trans description.symm⟩

/-- A path that is a reference. Under it one method holds an object, and another one holds a
reference to an object with an id and a description. -/
def kiosk : Object :=
  let responses := Outline.answer (.record [("title", .text "Item")])
  [(.text "paths", .record [
    ("/items", .record [("$ref", .text "#/components/pathItems/items")])]),
   (.text "components", .record [
    ("pathItems", .record [("items", .record [
      ("get", .record [("$ref", .text "#/components/operations/list")]),
      ("post", .record [("operationId", .text "addItem"), ("responses", responses)])])]),
    ("operations", .record [("list", .record [("operationId", .text "listItems"),
      ("description", .text "All items"), ("responses", responses)])])])]

theorem kiosk_titled : ∃ v ∈ Declared.ofDocument kiosk, ∃ o c' endpoint,
    (ofSite Catalog.assign Options.usual v.site v.method v.endpoint Catalog.empty).result =
      .ok (some o, c') ∧
    o.id = "addItem" ∧ v.site.endpoint = .ok endpoint ∧ o.TitledBy v.site endpoint := by
  obtain ⟨v, declared, found⟩ := List.any_eq_true.mp (show
    ((Declared.ofDocument kiosk).any fun v =>
      (ofSite Catalog.assign Options.usual v.site v.method v.endpoint
        Catalog.empty).result.toOption.any fun found => found.1.any (·.id == "addItem") &&
          (Object.get? v.endpoint (.text "$ref")).isNone) = true by decide +kernel)
  obtain ⟨⟨built, c'⟩, run, found⟩ := Except.exists_of_any found
  obtain ⟨has_id, plain⟩ := (Bool.and_eq_true _ _).mp found
  cases built with
  | none => cases has_id
  | some o =>
    obtain ⟨endpoint, found, titled, same, _⟩ := titledBy_endpoint_iff kiosk Options.usual v
      Catalog.empty c' o (by decide +kernel) declared run
    refine ⟨v, declared, o, c', endpoint, run, eq_of_beq has_id, found, ?_⟩
    rw [same.mpr (Option.isNone_iff_eq_none.mp plain)]
    exact titled

/-- The operation under the reference has an id of its own and no description, although the object
that it is read from has both. -/
theorem kiosk_untitled : ∃ v ∈ Declared.ofDocument kiosk, ∃ o c' endpoint,
    (ofSite Catalog.assign Options.usual v.site v.method v.endpoint Catalog.empty).result =
      .ok (some o, c') ∧
    v.site.endpoint = .ok endpoint ∧ o.id = "getItems" ∧
    identify v.site endpoint = .ok "listItems" ∧ o.description = none ∧
    describe endpoint = some "All items" := by
  obtain ⟨v, declared, found⟩ := List.any_eq_true.mp (show
    ((Declared.ofDocument kiosk).any fun v =>
      ((ofSite Catalog.assign Options.usual v.site v.method v.endpoint
        Catalog.empty).result.toOption.any fun found =>
          found.1.any fun o => o.id == "getItems" && o.description == none) &&
      v.site.endpoint.toOption.any fun endpoint =>
        (identify v.site endpoint).toOption.any (· == "listItems") &&
          describe endpoint == some "All items") = true by decide +kernel)
  obtain ⟨found, resolved⟩ := (Bool.and_eq_true _ _).mp found
  obtain ⟨⟨built, c'⟩, run, found⟩ := Except.exists_of_any found
  obtain ⟨endpoint, is_endpoint, titles⟩ := Except.exists_of_any resolved
  obtain ⟨id, description⟩ := (Bool.and_eq_true _ _).mp titles
  obtain ⟨_, identified, is_id⟩ := Except.exists_of_any id
  cases built with
  | none => cases found
  | some o =>
    obtain ⟨own_id, own_description⟩ := (Bool.and_eq_true _ _).mp found
    refine ⟨v, declared, o, c', endpoint, run, is_endpoint, eq_of_beq own_id, ?_,
      eq_of_beq own_description, eq_of_beq description⟩
    rw [identified, eq_of_beq is_id]

end Operation

end ApiOutline
