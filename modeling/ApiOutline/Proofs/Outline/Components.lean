import ApiOutline.Proofs.Operation.Hereditary
import ApiOutline.Proofs.Outline.TypeNames
import ApiOutline.Proofs.Source

/-! One definition for one component. A node of a document is one value, wherever it is referred to
from. The payloads for which it is the schema have one definition if all numbers in it are numbers,
and otherwise each of them has another one, as such a value is not even equal to itself. -/
namespace ApiOutline

open Catalog (Assigned)
open ApiOutline.Tree (distinct place)

theorem List.split_cases {α : Type} {past past' future future' : List α} {a b : α}
    (split : past ++ a :: future = past' ++ b :: future') :
    past = past' ∧ a = b ∨ (∃ between, past' = past ++ a :: between) ∨
      ∃ between, past = past' ++ b :: between := by
  rcases List.append_eq_append_iff.mp split with ⟨between, after, rest⟩ | ⟨between, after, rest⟩
  · cases between with
    | nil =>
      cases rest
      exact .inl ⟨(after.trans (List.append_nil past)).symm, rfl⟩
    | cons c between =>
      cases rest
      exact .inr (.inl ⟨between, after⟩)
  · cases between with
    | nil =>
      cases rest
      exact .inl ⟨after.trans (List.append_nil past'), rfl⟩
    | cons c between =>
      cases rest
      exact .inr (.inr ⟨between, after⟩)

namespace Declared

variable {future vs : List Declared} {v : Declared} {id : String}

variable [Machine]

def claims (v : Declared) (id : String) : Bool :=
  v.site.responseSchema.isSome && (Operation.identify v.site v.endpoint).toOption == some id

theorem claims_iff : v.claims id = true ↔ v.Claims id := by
  cases identified : Operation.identify v.site v.endpoint <;>
    simp [claims, Claims, identified, Except.toOption]

def last? (vs : List Declared) (id : String) : Option Declared :=
  (vs.filter (·.claims id)).getLast?

theorem claims_of_last? (found : last? vs id = some v) : v ∈ vs ∧ v.Claims id := by
  obtain ⟨member, claims⟩ := List.mem_filter.mp (List.mem_of_getLast? found)
  exact ⟨member, claims_iff.mp claims⟩

theorem last?_append (past : List Declared) (claims : v.Claims id)
    (others : ∀ w ∈ future, ¬ w.Claims id) : last? (past ++ v :: future) id = some v := by
  have none_later : future.filter (·.claims id) = [] :=
    List.filter_eq_nil_iff.mpr fun w hw => mt claims_iff.mp (others w hw)
  simp [last?, List.filter_append, claims_iff.mpr claims, none_later]

end Declared

namespace Outline

inductive Slot where
  | request
  | response
  deriving DecidableEq

namespace Slot

variable {past : List Declared} {v : Declared} {slot : Slot} {t : Tree}

variable [Machine]

def schema? : Slot → Site → Option Tree
  | .request => Site.requestSchema
  | .response => Site.responseSchema

def definition? : Slot → Operation → Option Definition
  | .request => (·.request)
  | .response => fun o => some o.response

def before (past : List Declared) (v : Declared) : Slot → List Tree
  | .request => past.flatMap Declared.payloads
  | .response => past.flatMap Declared.payloads ++ v.site.requestSchema.toList

theorem prefix_before : past.flatMap Declared.payloads <+: slot.before past v := by
  cases slot with
  | request => exact List.prefix_rfl
  | response => exact List.prefix_append _ _

theorem prefix_of_schema? (given : slot.schema? v.site = some t) (future : List Declared) :
    slot.before past v ++ [t] <+: (past ++ v :: future).flatMap Declared.payloads := by
  rw [List.flatMap_append, List.flatMap_cons, Declared.payloads]
  cases slot with
  | request =>
    have given : v.site.requestSchema = some t := given
    refine (List.prefix_append_right_inj _).mpr ?_
    rw [given]
    simp
  | response =>
    have given : v.site.responseSchema = some t := given
    rw [before, given, List.append_assoc, List.append_assoc]
    refine (List.prefix_append_right_inj _).mpr ((List.prefix_append_right_inj _).mpr ?_)
    exact List.prefix_append _ _

theorem wellFormed_of_schema? (given : slot.schema? v.site = some t)
    (formed : v.site.root.wellFormed = true) : t.wellFormed = true := by
  cases slot with
  | request => exact Tree.wellFormed_hereditary.requestSchema formed given
  | response => exact Tree.wellFormed_hereditary.responseSchema formed given

theorem before_response (given : v.site.requestSchema = some t) :
    Slot.request.before past v ++ [t] <+: Slot.response.before past v := by
  rw [before, before, given]
  exact List.prefix_rfl

theorem before_cases {past' future future' : List Declared} {v' : Declared} {slot' : Slot}
    (split : past ++ v :: future = past' ++ v' :: future') (given : slot.schema? v.site = some t)
    (given' : slot'.schema? v'.site = some t) (other : v = v' → slot ≠ slot') :
    slot.before past v ++ [t] <+: slot'.before past' v' ∨
      slot'.before past' v' ++ [t] <+: slot.before past v := by
  rcases List.split_cases split with ⟨rfl, rfl⟩ | ⟨between, rfl⟩ | ⟨between, rfl⟩
  · cases slot with
    | request =>
      cases slot' with
      | request => exact absurd rfl (other rfl)
      | response => exact .inl (before_response given)
    | response =>
      cases slot' with
      | request => exact .inr (before_response given')
      | response => exact absurd rfl (other rfl)
  · exact .inl ((prefix_of_schema? given between).trans prefix_before)
  · exact .inr ((prefix_of_schema? given' between).trans prefix_before)

theorem assigned {c : Catalog} {future : List Declared} {e : String × Operation}
    (origin : Origin c past v future e) (slot : Slot) :
    Assigned c (slot.before past v) (slot.schema? v.site) (slot.definition? e.2) := by
  cases slot with
  | request => exact origin.request
  | response => exact origin.response

theorem mem_definitions {document : Object} {options : Options} {o : Outline} {d : Definition}
    {e : String × Operation} (succeeds : (ofDocument document options).result = .ok o)
    (he : e ∈ o.operations) (given : slot.definition? e.2 = some d) :
    d ∈ o.catalog.definitions := by
  obtain ⟨past, v, future, _, origin⟩ := origin_of_mem succeeds he
  have assigned := assigned origin slot
  rw [given] at assigned
  exact assigned.mem

end Slot

/-- Where a payload stands in an outline: under the id of its operation. -/
structure Position where
  id : String
  slot : Slot
  deriving DecidableEq

namespace Position

variable {document : Object} {options : Options} {o : Outline} {p q : Position} {t : Tree}

section

variable [Machine]

def schema? (p : Position) (document : Object) : Option Tree :=
  (Declared.last? (Declared.ofDocument document) p.id).bind (p.slot.schema? ·.site)

def definition? (p : Position) (o : Outline) : Option Definition :=
  (Entries.get? p.id o.operations).bind p.slot.definition?

/-- A position among the operations that a document declares, with its schema and its definition. -/
structure Stands (document : Object) (o : Outline) (p : Position) (t : Tree) (past : List Declared)
    (v : Declared) (future : List Declared) (d : Definition) : Prop where
  split : Declared.ofDocument document = past ++ v :: future
  claims : v.Claims p.id
  schema : p.slot.schema? v.site = some t
  definition : p.definition? o = some d
  found : o.catalog.definitions[place (distinct (p.slot.before past v)) t]? = some d

theorem stands_of_schema? (succeeds : (ofDocument document options).result = .ok o)
    (given : p.schema? document = some t) :
    ∃ past v future d, p.Stands document o t past v future d := by
  obtain ⟨v, is_last, given⟩ := Option.bind_eq_some_iff.mp given
  obtain ⟨member, claims⟩ := Declared.claims_of_last? is_last
  obtain ⟨_, visited, _, keys, _⟩ := mem_operations succeeds
  have inside : p.id ∈ Entries.keys o.operations :=
    keys ▸ ((follows_of_visit visited).claimed p.id).mpr ⟨v, member, claims⟩
  obtain ⟨stored, is_stored⟩ := Option.isSome_iff_exists.mp (Entries.isSome_get?.mpr inside)
  obtain ⟨past, u, future, split, origin⟩ :=
    origin_of_mem succeeds (Entries.mem_of_get? is_stored)
  have claims := (origin.claims_iff p.id).mpr rfl
  -- The operation that stays is the one that claims its id last, so the two searches agree.
  have last := Declared.last?_append past claims origin.last
  cases (split ▸ last).symm.trans is_last
  have assigned := Slot.assigned origin p.slot
  rw [given] at assigned
  generalize definition : p.slot.definition? (p.id, stored).2 = answer at assigned
  cases assigned with
  | @present _ d found =>
    refine ⟨past, v, future, d, split, claims, given, ?_, found⟩
    rw [definition?, is_stored]
    exact definition

section

variable {past past' future future' : List Declared} {v v' : Declared} {d d' : Definition}

theorem Stands.eq_iff (stands : p.Stands document o t past v future d)
    (stands' : q.Stands document o t past' v' future' d') (named : o.catalog.Named) :
    d = d' ↔
      place (distinct (p.slot.before past v)) t = place (distinct (q.slot.before past' v')) t := by
  constructor
  · rintro rfl
    rw [← named.index_eq stands.found, ← named.index_eq stands'.found]
  · intro same
    exact Option.some.inj (stands.found.symm.trans (same ▸ stands'.found))

theorem Stands.wellFormed (stands : p.Stands document o t past v future d)
    (formed : (Tree.object document).wellFormed = true) : t.wellFormed = true := by
  have member : v ∈ Declared.ofDocument document :=
    stands.split ▸ List.mem_append_right _ List.mem_cons_self
  refine Slot.wellFormed_of_schema? stands.schema ?_
  rw [Site.root, (Declared.site_of_mem member).1]
  exact formed

theorem Stands.slot_ne (stands : p.Stands document o t past v future d)
    (stands' : q.Stands document o t past' v' future' d') (other : p ≠ q) :
    v = v' → p.slot ≠ q.slot := by
  rintro rfl same_slot
  have same_id : p.id = q.id := Except.ok.inj (stands.claims.2.symm.trans stands'.claims.2)
  obtain ⟨id, slot⟩ := p
  obtain ⟨id', slot'⟩ := q
  cases same_id
  cases same_slot
  exact other rfl

end

/-- Payloads in two positions of the outline of a loaded document, whose schemas are one node of it,
have one definition if and only if the node holds no value that is not a number. -/
theorem one_definition_iff (s : Surroundings) (source : String) (document : Object)
    (options : Options) (o : Outline) (p q : Position) (t : Tree)
    (loaded : (Source.load s source).result = .ok document)
    (succeeds : (ofDocument document options).result = .ok o) (other : p ≠ q)
    (first : p.schema? document = some t) (second : q.schema? document = some t) :
    ∃ d ∈ o.catalog.definitions, ∃ d' ∈ o.catalog.definitions, p.definition? o = some d ∧
      q.definition? o = some d' ∧ (d = d' ↔ t.hasNaN = false) := by
  obtain ⟨past, v, future, d, stands⟩ := stands_of_schema? succeeds first
  obtain ⟨past', v', future', d', stands'⟩ := stands_of_schema? succeeds second
  refine ⟨d, List.mem_of_getElem? stands.found, d', List.mem_of_getElem? stands'.found,
    stands.definition, stands'.definition, ?_⟩
  have formed := stands.wellFormed (Source.wellFormed_of_load loaded)
  rw [stands.eq_iff stands' (catalog_named succeeds)]
  -- The definition of the later payload is looked up after that of the earlier one.
  rcases Slot.before_cases (stands.split.symm.trans stands'.split) stands.schema stands'.schema
    (stands.slot_ne stands' other) with earlier | later
  · exact Tree.place_eq_iff formed earlier
  · exact eq_comm.trans (Tree.place_eq_iff formed later)

def objectText (fields : List (String × List Char)) : List Char :=
  '\x7b' :: [','].intercalate (fields.map fun (k, v) => '"' :: k.toList ++ '"' :: ':' :: v) ++
    ['\x7d']

def nestedText (keys : List String) (inner : List Char) : List Char :=
  keys.foldr (fun k v => objectText [(k, v)]) inner

/-- A document whose only operation takes and returns birds. It is written to standard input, with
the given text for the size of a bird. -/
def aviary (size : String) : Surroundings where
  system := "Linux"
  environment := []
  directory := Path.ofText "/"
  directories := []
  files := []
  input :=
    let bird := "\"#/components/schemas/Bird\"".toList
    let body := nestedText ["content", "application/json", "schema", "$ref"] bird
    String.ofList (objectText [
      ("paths", nestedText ["/birds", "post"] (objectText [("operationId", "\"hatch\"".toList),
        ("requestBody", body), ("responses", nestedText ["default"] body)])),
      ("components", nestedText ["schemas", "Bird", "default"] size.toList)])
  fetch := fun _ => .failure ""
  isTerminal := false

def flock (size : Scalar) : Object :=
  let bird := Tree.record [("$ref", .text "#/components/schemas/Bird")]
  let body := Tree.record [("content",
    .record [("application/json", .record [("schema", bird)])])]
  [(.text "paths", .record [("/birds", .record [("post", .record [("operationId", .text "hatch"),
      ("requestBody", body), ("responses", .record [("default", body)])])])]),
   (.text "components", .record [("schemas",
    .record [("Bird", .record [("default", .scalar size)])])])]

def hatch (size : Scalar) : Site := ⟨flock size, .text "/birds", .text "post"⟩

theorem last?_flock (size : Scalar) :
    (Declared.last? (Declared.ofDocument (flock size)) "hatch").map (·.site) =
      some (hatch size) := by
  with_unfolding_all rfl

theorem schema?_flock (size : Scalar) (slot : Slot) :
    Position.schema? ⟨"hatch", slot⟩ (flock size) = some (.record [("default", .scalar size)]) := by
  obtain ⟨v, last, site⟩ := Option.map_eq_some_iff.mp (last?_flock size)
  rw [schema?, last, Option.bind_some, site]
  cases slot with
  | request => with_unfolding_all rfl
  | response => with_unfolding_all rfl

end

set_option maxRecDepth 100000 in
theorem aviary_shares : ∃ o d, (Source.load (aviary "7") "-").result = .ok (flock (.int 7)) ∧
    (ofDocument (flock (.int 7)) Options.usual).result = .ok o ∧
    Position.definition? ⟨"hatch", .request⟩ o = some d ∧
    Position.definition? ⟨"hatch", .response⟩ o = some d := by
  have loaded : (Source.load (aviary "7") "-").result = .ok (flock (.int 7)) :=
    Source.load_of_input String.toList_ofList (by decide +kernel) rfl
  obtain ⟨o, succeeds, _⟩ := Except.exists_of_any
    (x := (ofDocument (flock (.int 7)) Options.usual).result) (p := fun _ => true)
    (by decide +kernel)
  obtain ⟨d, _, d', _, first, second, same⟩ := one_definition_iff (aviary "7") "-"
    (flock (.int 7)) Options.usual o ⟨"hatch", .request⟩ ⟨"hatch", .response⟩
    (.record [("default", .scalar (.int 7))]) loaded succeeds (by decide) (schema?_flock _ _)
    (schema?_flock _ _)
  cases same.mpr rfl
  exact ⟨o, d, loaded, succeeds, first, second⟩

set_option maxRecDepth 100000 in
/-- With a size that is not a number one node has two definitions, of which the second one is called
after the path. -/
theorem aviary_parts : ∃ o d d',
    (Source.load (aviary "NaN") "-").result = .ok (flock (.float (.nan 0))) ∧
    (ofDocument (flock (.float (.nan 0))) Options.usual).result = .ok o ∧
    (∀ slot, Position.schema? ⟨"hatch", slot⟩ (flock (.float (.nan 0))) =
      some (.record [("default", .scalar (.float (.nan 0)))])) ∧
    Position.definition? ⟨"hatch", .request⟩ o = some d ∧ d.objectName = "Bird" ∧
    Position.definition? ⟨"hatch", .response⟩ o = some d' ∧ d'.objectName = "Birds" := by
  have loaded : (Source.load (aviary "NaN") "-").result = .ok (flock (.float (.nan 0))) :=
    Source.load_of_input String.toList_ofList (by decide +kernel) rfl
  obtain ⟨o, succeeds, found⟩ := Except.exists_of_any
    (x := (ofDocument (flock (.float (.nan 0))) Options.usual).result)
    (p := fun o => (Position.definition? ⟨"hatch", .request⟩ o).any (·.objectName == "Bird") &&
      (Position.definition? ⟨"hatch", .response⟩ o).any (·.objectName == "Birds"))
    (by decide +kernel)
  obtain ⟨first, second⟩ := (Bool.and_eq_true _ _).mp found
  obtain ⟨d, is_first, name⟩ := (Option.any_eq_true _ _).mp first
  obtain ⟨d', is_second, name'⟩ := (Option.any_eq_true _ _).mp second
  exact ⟨o, d, d', loaded, succeeds, schema?_flock _, is_first, eq_of_beq name, is_second,
    eq_of_beq name'⟩

end Position

end Outline

end ApiOutline
