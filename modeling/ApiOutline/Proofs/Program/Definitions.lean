import Mathlib.Algebra.BigOperators.Group.Finset.Basic
import Mathlib.Data.Set.Card
import ApiOutline.Proofs.Outline.Components
import ApiOutline.Proofs.Program

/-! The table of definitions. It counts how often the name of a definition stands among the payloads
of operations. Names are distinct, and every payload has a definition of the outline, so these are
the payloads whose definition it is, and all of them are counted once. -/
namespace ApiOutline

theorem Entries.encard_keys {κ α : Type} [DecidableEq κ] {es : List (κ × α)}
    (distinct : (keys es).Nodup) (p : α → Bool) :
    {k | ∃ a, (k, a) ∈ es ∧ p a = true}.encard = es.countP (p ·.2) := by
  let hits := keys (es.filter (p ·.2))
  have once : hits.Nodup := distinct.sublist (List.filter_sublist.map _)
  have same : {k | ∃ a, (k, a) ∈ es ∧ p a = true} = (hits.toFinset : Set κ) := by
    ext k
    simp [hits, keys]
  rw [same, Set.encard_coe_eq_coe_finsetCard, List.toFinset_card_of_nodup once,
    List.countP_eq_length_filter]
  simp [hits, keys]

theorem List.sum_count_of_nodup {names listed : List String} (distinct : listed.Nodup)
    (inside : ∀ n ∈ names, n ∈ listed) : (listed.map (names.count ·)).sum = names.length := by
  have all : ∀ n ∈ (names : Multiset String), n ∈ listed.toFinset := fun n hn =>
    List.mem_toFinset.mpr (inside n hn)
  rw [← List.sum_toFinset _ distinct]
  simpa using Multiset.sum_count_eq_card all

namespace Outline

variable {document : Object} {options : Options} {o : Outline} {p : Position} {d : Definition}

def payloads (o : Outline) : List (Position × Definition) :=
  o.operations.flatMap fun e =>
    e.2.request.toList.map (⟨e.1, .request⟩, ·) ++ [(⟨e.1, .response⟩, e.2.response)]

theorem mem_payloads (distinct : (Entries.keys o.operations).Nodup) :
    (p, d) ∈ o.payloads ↔ p.definition? o = some d := by
  obtain ⟨id, slot⟩ := p
  have listed : (⟨id, slot⟩, d) ∈ o.payloads ↔
      ∃ e ∈ o.operations, e.1 = id ∧ slot.definition? e.2 = some d := by
    cases slot with
    | request => simp [payloads, Slot.definition?]
    | response => simp [payloads, Slot.definition?, eq_comm (a := d)]
  rw [listed, Position.definition?, Option.bind_eq_some_iff]
  constructor
  · rintro ⟨e, he, rfl, found⟩
    exact ⟨e.2, Entries.get?_of_mem distinct he, found⟩
  · rintro ⟨stored, is_stored, found⟩
    exact ⟨_, Entries.mem_of_get? is_stored, rfl, found⟩

theorem nodup_payloads (distinct : (Entries.keys o.operations).Nodup) :
    (Entries.keys o.payloads).Nodup := by
  rw [Entries.keys, payloads, List.map_flatMap, List.nodup_flatMap]
  constructor
  · intro e _
    cases e.2.request <;> simp
  · refine (List.pairwise_map.mp distinct).imp fun {e f} other => ?_
    simp only [Function.onFun, List.disjoint_left]
    intro p hp hp'
    simp only [List.map_append, List.map_map, List.mem_append, List.mem_map, List.map_cons,
      List.map_nil, List.mem_singleton, Function.comp_apply] at hp hp'
    have id : p.id = e.1 := by grind
    have id' : p.id = f.1 := by grind
    exact other (id.symm.trans id')

theorem definition_of_payload [Machine] (succeeds : (ofDocument document options).result = .ok o)
    (given : p.definition? o = some d) : d ∈ o.catalog.definitions := by
  obtain ⟨stored, is_stored, found⟩ := Option.bind_eq_some_iff.mp given
  exact Slot.mem_definitions succeeds (Entries.mem_of_get? is_stored) found

end Outline

namespace Program

open Outline (ofDocument Position)
open Outline.Position (nestedText objectText)

variable {document : Object} {options : Options} {o : Outline} {d : Definition}

def usedNames (o : Outline) : List String := o.payloads.map (·.2.objectName)

theorem uses_eq_count (o : Outline) (d : Definition) :
    uses o d = (usedNames o).count d.objectName := by
  have names : (o.operations.flatMap fun e => e.2.request.toList ++ [e.2.response]) =
      o.payloads.map (·.2) := by
    simp [Outline.payloads, List.map_flatMap, Function.comp_def]
  rw [uses, names, usedNames, List.count, List.countP_map, List.countP_map]
  rfl

section

variable [Machine]

/-- Names are distinct, so those who use a name use its definition. -/
theorem uses_eq_encard (succeeds : (ofDocument document options).result = .ok o)
    (member : d ∈ o.catalog.definitions) :
    {p : Position | p.definition? o = some d}.encard = uses o d := by
  have distinct := Outline.nodup_keys_operations succeeds
  have named := Outline.catalog_named succeeds
  have users : {p : Position | p.definition? o = some d} =
      {p | ∃ d', (p, d') ∈ o.payloads ∧ (d'.objectName == d.objectName) = true} := by
    ext p
    simp only [Set.mem_ofPred_eq, Outline.mem_payloads distinct, beq_iff_eq]
    constructor
    · intro given
      exact ⟨d, given, rfl⟩
    · rintro ⟨d', given, same⟩
      have inside := Outline.definition_of_payload succeeds given
      exact List.inj_on_of_nodup_map named.objectNames_nodup inside member same ▸ given
  rw [users, Entries.encard_keys (Outline.nodup_payloads distinct) (·.objectName == d.objectName),
    uses_eq_count, usedNames, List.count, List.countP_map]
  rfl

theorem sum_uses (succeeds : (ofDocument document options).result = .ok o) :
    {p : Position | (p.definition? o).isSome = true}.encard =
      ((o.catalog.definitions.map (uses o)).sum : Nat) := by
  have distinct := Outline.nodup_keys_operations succeeds
  have users : {p : Position | (p.definition? o).isSome = true} =
      {p | ∃ d, (p, d) ∈ o.payloads ∧ true = true} := by
    ext p
    simp [Outline.mem_payloads distinct, Option.isSome_iff_exists]
  have inside : ∀ n ∈ usedNames o, n ∈ o.catalog.definitions.map (·.objectName) := by
    intro n hn
    obtain ⟨⟨p, d⟩, member, rfl⟩ := List.mem_map.mp hn
    have given := (Outline.mem_payloads distinct).mp member
    exact List.mem_map_of_mem (Outline.definition_of_payload succeeds given)
  have counted := List.sum_count_of_nodup (Outline.catalog_named succeeds).objectNames_nodup inside
  rw [List.map_map] at counted
  have each : o.catalog.definitions.map (uses o) =
      o.catalog.definitions.map ((usedNames o).count ∘ (·.objectName)) :=
    List.map_congr_left fun d _ => uses_eq_count o d
  rw [users, Entries.encard_keys (Outline.nodup_payloads distinct) fun _ => true, each]
  refine congrArg Nat.cast (Eq.trans ?_ counted.symm)
  simp [usedNames]

/-- The table of definitions has one line for each of them, in their order. It tells the text that
the name was made from, which is always there, and how many payloads of operations have this
definition. These numbers add up to that of all payloads. -/
theorem definitions_table_counts (s : Surroundings) (source : String) (o : Outline)
    (succeeds : (outline s Configuration.Flags.absent source).result = .ok o) :
    (∀ t, (execute s t (.definitions source)).result =
      .ok (t.table s!"Data Definitions ({o.catalog.definitions.length})" definitionHeaders
        (o.catalog.definitions.map (definitionRow o)))) ∧
    (∀ d ∈ o.catalog.definitions, ∃ raw,
      Entries.get? d.objectName o.catalog.names.origins = some raw ∧
      Identifier.sanitize raw = d.objectName ∧
      definitionRow o d = [d.objectName, d.inputName, raw, toString (uses o d)] ∧
      {p : Position | p.definition? o = some d}.encard = uses o d) ∧
    {p : Position | (p.definition? o).isSome = true}.encard =
      ((o.catalog.definitions.map (uses o)).sum : Nat) := by
  obtain ⟨options, _, rest⟩ := Logged.bind_eq_ok.mp succeeds
  obtain ⟨document, _, rest⟩ := Logged.bind_eq_ok.mp rest
  obtain ⟨_, _, built⟩ := Logged.bind_eq_ok.mp rest
  refine ⟨fun t => ?_, fun d member => ?_, sum_uses built⟩
  · rw [Command.execute_eq, Logged.result_map, Command.outline, succeeds]
    rfl
  · obtain ⟨raw, found, sanitized⟩ := Outline.exists_origin built member
    refine ⟨raw, found, sanitized, ?_, uses_eq_encard built member⟩
    rw [definitionRow, found, Option.getD_some]

end

/-- A document of parcels. Two paths have the same operation, which lists them, the operation that
sends one also returns one, and an order gets no response. -/
def stock : Object :=
  let body (title : String) : Tree := .record [("content", .record [("application/json",
    .record [("schema", .record [("title", .text title)])])])]
  let parcels := Tree.record [("get", .record [("operationId", .text "parcels"),
    ("responses", .record [("200", body "Parcel")])])]
  [(.text "openapi", .text "3.0.3"), (.text "paths", .record [
    ("/parcels", parcels), ("/all", parcels),
    ("/orders", .record [("post", .record [("requestBody", body "Order")])]),
    ("/send", .record [("post", .record [("requestBody", body "Parcel"),
      ("responses", .record [("200", body "Parcel")])])])])]

def depot : Surroundings where
  system := "Linux"
  environment := [("HOME", "/home/clerk")]
  directory := Path.ofText "/"
  directories := []
  files := []
  input :=
    let body := nestedText ["content", "application/json", "schema", "title"]
    let parcel := body "\"Parcel\"".toList
    let parcels := nestedText ["get"] (objectText [("operationId", "\"parcels\"".toList),
      ("responses", nestedText ["200"] parcel)])
    String.ofList (objectText [("openapi", "\"3.0.3\"".toList), ("paths", objectText [
      ("/parcels", parcels), ("/all", parcels),
      ("/orders", nestedText ["post", "requestBody"] (body "\"Order\"".toList)),
      ("/send", nestedText ["post"] (objectText [("requestBody", parcel),
        ("responses", nestedText ["200"] parcel)]))])])
  fetch := fun _ => .failure ""
  isTerminal := false

set_option maxRecDepth 100000 in
theorem depot_counts : ∃ o, (outline depot Configuration.Flags.absent "-").result = .ok o ∧
    o.catalog.definitions.map (definitionRow o) =
      [["Parcel", "ParcelInput", "Parcel", "3"], ["Order", "OrderInput", "Order", "0"]] ∧
    {p : Position | (p.definition? o).isSome = true}.encard = 3 := by
  have resolved : Configuration.resolve depot Configuration.Flags.absent = .ok Options.usual := by
    simp only [Configuration.resolve, Configuration.preferences, Configuration.project,
      Configuration.readJson, Surroundings.text?, Surroundings.file?, String.contains_char_eq]
    rfl
  have loaded : (Source.load depot "-").result = .ok stock :=
    Source.load_of_input String.toList_ofList (by decide +kernel) rfl
  obtain ⟨o, built, told⟩ := Except.exists_of_any (x := (ofDocument stock Options.usual).result)
    (p := fun o => o.catalog.definitions.map (definitionRow o) ==
        [["Parcel", "ParcelInput", "Parcel", "3"], ["Order", "OrderInput", "Order", "0"]] &&
      (o.catalog.definitions.map (uses o)).sum == 3) (by decide +kernel)
  have succeeds : (outline depot Configuration.Flags.absent "-").result = .ok o :=
    Logged.bind_eq_ok.mpr ⟨Options.usual, resolved, Logged.bind_eq_ok.mpr ⟨stock, loaded,
      Logged.bind_eq_ok.mpr ⟨"3.0.3", rfl, built⟩⟩⟩
  obtain ⟨rows, total⟩ := (Bool.and_eq_true _ _).mp told
  obtain ⟨-, -, summed⟩ := definitions_table_counts depot "-" o succeeds
  rw [eq_of_beq total] at summed
  exact ⟨o, succeeds, eq_of_beq rows, summed⟩

end Program

end ApiOutline
