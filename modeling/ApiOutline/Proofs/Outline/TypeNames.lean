import ApiOutline.Proofs.Outline.Payloads

/-! The names of the types that definitions stand for. Names of object types are distinct because
each was free when it was taken. Names of input types follow from them, and nothing asks whether
they are free. -/
namespace ApiOutline

namespace Catalog

variable {c : Catalog}

def typeNames (c : Catalog) : List String :=
  c.definitions.map (·.objectName) ++ c.definitions.map (·.inputName)

theorem inputName_injective {n m : String} (h : n ++ inputSuffix = m ++ inputSuffix) : n = m := by
  have letters := congrArg String.toList h
  simp only [String.toList_append, List.append_cancel_right_eq] at letters
  exact String.toList_injective letters

theorem Named.objectNames_nodup (named : c.Named) :
    (c.definitions.map (·.objectName)).Nodup := by
  rw [named.names]
  exact named.coupled.distinct

theorem Named.inputNames_nodup (named : c.Named) : (c.definitions.map (·.inputName)).Nodup := by
  rw [named.inputNames]
  exact List.Pairwise.map _ (fun n m different same => different (inputName_injective same))
    named.coupled.distinct

/-- Two types can have one name only if an object's name is the name of an input. -/
theorem Named.typeNames_nodup (named : c.Named) : c.typeNames.Nodup ↔
    ∀ d ∈ c.definitions, ∀ e ∈ c.definitions, d.objectName ≠ e.objectName ++ inputSuffix := by
  constructor
  · intro distinct d hd e he same
    refine (List.nodup_append.mp distinct).2.2 d.objectName (List.mem_map_of_mem hd) e.inputName
      (List.mem_map_of_mem he) ?_
    rw [same, named.inputs e he]
  · intro apart
    refine List.nodup_append.mpr ⟨named.objectNames_nodup, named.inputNames_nodup, ?_⟩
    intro n hn m hm same
    obtain ⟨d, hd, rfl⟩ := List.mem_map.mp hn
    obtain ⟨e, he, rfl⟩ := List.mem_map.mp hm
    exact apart d hd e he (same.trans (named.inputs e he))

end Catalog

namespace Outline

section

variable [Machine]

theorem catalog_named {document : Object} {options : Options} {o : Outline}
    (succeeds : (ofDocument document options).result = .ok o) : o.catalog.Named := by
  obtain ⟨p, visited, catalog, _, _⟩ := mem_operations succeeds
  rw [catalog]
  exact (follows_of_visit visited).named

theorem exists_origin {document : Object} {options : Options} {o : Outline} {d : Definition}
    (succeeds : (ofDocument document options).result = .ok o)
    (member : d ∈ o.catalog.definitions) : ∃ raw,
      Entries.get? d.objectName o.catalog.names.origins = some raw ∧
        Identifier.sanitize raw = d.objectName := by
  have named := catalog_named succeeds
  have key : d.objectName ∈ Entries.keys o.catalog.names.origins := by
    rw [named.coupled.keys, ← named.names]
    exact List.mem_map_of_mem member
  obtain ⟨raw, found⟩ := Option.isSome_iff_exists.mp (Entries.isSome_get?.mpr key)
  exact ⟨raw, found, named.coupled.origin (d.objectName, raw) (Entries.mem_of_get? found)⟩

/-- The names of an outline's object types are distinct, and so are those of its input types. All
names are distinct exactly if no object type is called like the input type of a definition. -/
theorem typeNames_nodup_iff (document : Object) (options : Options) (o : Outline)
    (succeeds : (ofDocument document options).result = .ok o) :
    (o.catalog.definitions.map (·.objectName)).Nodup ∧
    (o.catalog.definitions.map (·.inputName)).Nodup ∧
    (o.catalog.typeNames.Nodup ↔ ∀ d ∈ o.catalog.definitions, ∀ e ∈ o.catalog.definitions,
      d.objectName ≠ e.objectName ++ "Input") := by
  have named := catalog_named succeeds
  exact ⟨named.objectNames_nodup, named.inputNames_nodup, named.typeNames_nodup⟩

end

theorem shop_typeNames : ∃ o, (ofDocument shop Options.usual).result = .ok o ∧
    o.catalog.typeNames = ["Pet", "Order", "PetInput", "OrderInput"] ∧ o.catalog.typeNames.Nodup ∧
    ∀ d ∈ o.catalog.definitions, ∀ e ∈ o.catalog.definitions,
      d.objectName ≠ e.objectName ++ "Input" := by
  obtain ⟨o, succeeds, found⟩ := Except.exists_of_any
    (x := (ofDocument shop Options.usual).result)
    (p := fun o => o.catalog.typeNames == ["Pet", "Order", "PetInput", "OrderInput"])
    (by decide +kernel)
  have names : o.catalog.typeNames = ["Pet", "Order", "PetInput", "OrderInput"] := by
    simpa using found
  have distinct : o.catalog.typeNames.Nodup := by
    rw [names]
    decide
  exact ⟨o, succeeds, names, distinct,
    (typeNames_nodup_iff shop Options.usual o succeeds).2.2.mp distinct⟩

def kennel : Object :=
  [(.text "paths", .record [
    ("/a", .record [("get", .record [
      ("responses", answer (.record [("$ref", .text "#/components/schemas/Pet")]))])]),
    ("/b", .record [("get", .record [
      ("responses", answer (.record [("$ref", .text "#/components/schemas/PetInput")]))])])]),
   (.text "components", .record [("schemas", .record [
    ("Pet", .record [("type", .text "object")]),
    ("PetInput", .record [("type", .text "object"), ("title", .text "Draft")])])])]

/-- The input type of the first definition and the object type of the second one have one name. -/
theorem kennel_typeNames : ∃ o, (ofDocument kennel Options.usual).result = .ok o ∧
    o.catalog.typeNames = ["Pet", "PetInput", "PetInput", "PetInputInput"] ∧
    ¬ o.catalog.typeNames.Nodup := by
  obtain ⟨o, succeeds, found⟩ := Except.exists_of_any
    (x := (ofDocument kennel Options.usual).result)
    (p := fun o => o.catalog.typeNames == ["Pet", "PetInput", "PetInput", "PetInputInput"])
    (by decide +kernel)
  have names : o.catalog.typeNames = ["Pet", "PetInput", "PetInput", "PetInputInput"] := by
    simpa using found
  refine ⟨o, succeeds, names, ?_⟩
  rw [names]
  decide

end Outline

end ApiOutline
