import ApiOutline.Proofs.Operation.Requirement
import ApiOutline.Proofs.Outline.Accounting

/-! The security schemes of operations and those of the outline. Operations take the keys of
declared schemes that are not of OAuth 2.0, the outline takes the schemes that can be translated.
Both resolve the schemes for themselves, and they differ only in those that are left out with a
warning. -/
namespace ApiOutline

namespace Security

theorem type_of_oauth2 [Machine] {o : Object} (of : Kind.of o = .ok .oauth2) :
    (Object.field o "type").text? = some "oauth2" := by
  unfold Kind.of at of
  split at of
  · assumption
  · cases of
  · obtain ⟨scheme, _, of⟩ := Except.bind_eq_ok.mp of
    split at of <;> cases of
  · cases of

end Security

namespace Operation

theorem exists_of_requireTexts {keys : List Scalar} {texts : List String} {text : String}
    (taken : requireTexts keys = .ok texts) (member : text ∈ texts) :
    ∃ key ∈ keys, (Tree.scalar key).fieldText? = some text := by
  unfold requireTexts at taken
  dsimp only at taken
  split at taken
  · cases taken
    exact List.mem_filterMap.mp member
  · cases taken

theorem Reads.asked [Machine] {options : Options} {s : Site} {method : Method} {endpoint : Object}
    {o : Operation} (reads : Reads options s method endpoint o) {text : String}
    (member : text ∈ o.security) : ∃ keys, s.security = .ok keys ∧
      ∃ key ∈ keys, (Tree.scalar key).fieldText? = some text := by
  obtain ⟨keys, read, taken⟩ := reads.security
  obtain ⟨key, inside, is_text⟩ := exists_of_requireTexts taken member
  split at read
  · exact ⟨keys, read, key, inside, is_text⟩
  · cases read
    cases inside

end Operation

namespace Outline

open ApiOutline.Security (Kind describe)

variable {document declared : Object} {options : Options} {notes : List Note} {o : Outline}

def writtenSchemes (document : Object) : Except Failure Object := do
  let components ← Object.inner document "components"
  Object.inner components "securitySchemes"

section

variable [Machine]

theorem declared_of_asksFor {s : Site} {key : Scalar} {components : Object}
    (found : Object.inner s.document "components" = .ok components)
    (counts : s.asksFor (Object.field components "securitySchemes") key = .ok true)
    (declares : declaredSchemes s.document = .ok declared) :
    ∃ written, writtenSchemes s.document = .ok written ∧ ∃ e ∈ written,
      e.1.identity = key.identity ∧ ∃ o loop, (e.1, Tree.object o loop) ∈ declared ∧
        (Object.field o "type").text? ≠ some "oauth2" := by
  obtain ⟨entries, loop, schemes, e, member, same_key, scheme, loop', resolved, type⟩ :=
    Site.entry_of_asksFor counts
  have inner : Object.inner components "securitySchemes" = .ok entries := by
    unfold Object.inner
    rw [schemes]
  refine ⟨entries, ?_, e, member, same_key, scheme, loop', ?_, type⟩
  · rw [writtenSchemes, found]
    exact inner
  · obtain ⟨components', found', declares⟩ := Except.bind_eq_ok.mp declares
    cases found'.symm.trans found
    obtain ⟨entries', inner', declares⟩ := Except.bind_eq_ok.mp declares
    cases inner'.symm.trans inner
    refine Except.mem_of_mapM declares member ?_
    show (Reference.resolve (.object s.document) e.2 >>= _) = _
    rw [show Reference.resolve (.object s.document) e.2 = _ from resolved]
    rfl

/-- A declared scheme that is not of OAuth 2.0 is stored under its name or left out with a
warning. -/
theorem settled_of_normalize {strict : Bool} {after : List Note} {definition : Object}
    {loop : Option Nat} {schemes : List (String × Security.Scheme)} {key : String}
    (run : Security.normalize strict declared = ⟨after, .ok schemes⟩)
    (member : (.text key, .object definition loop) ∈ declared)
    (type : (Object.field definition "type").text? ≠ some "oauth2") :
    (Entries.get? (Identifier.sanitize key) schemes).isSome = true ∨
      strict = false ∧ Kind.of definition = .ok .unsupported ∧
        ∃ description, describe definition = .ok description ∧
          Security.skipped key description ∈ after := by
  have normalization := Security.normalization_of_normalize run
  obtain ⟨about, inside, normalized⟩ := normalization.entry _ member
  generalize outcome : Security.translation _ = found at normalized
  cases normalized with
  | noObject other => cases other
  | oauth2 of => exact absurd (Security.type_of_oauth2 of) type
  | skipped lenient of described shown =>
    cases shown
    exact .inr ⟨lenient, of, _, described, inside List.mem_cons_self⟩
  | translated =>
    rw [← Security.Scheme.name_ofKind]
    exact .inl (normalization.isSome_get? member outcome)

/-- Every key that an operation asks for has a scheme under its name, or its scheme was left out
with a warning. A strict run leaves none out. -/
theorem protocols_settled (document : Object) (options : Options) (notes : List Note) (o : Outline)
    (texts : ∀ written, writtenSchemes document = .ok written →
      ∀ e ∈ written, ∃ key, e.1 = .text key)
    (run : ofDocument document options = ⟨notes, .ok o⟩) :
    ∀ e ∈ o.operations, ∀ key ∈ e.2.security,
      (Entries.get? (Identifier.sanitize key) o.security).isSome = true ∨
      options.strict = false ∧ ∃ declared definition loop description,
        declaredSchemes document = .ok declared ∧
        (.text key, .object definition loop) ∈ declared ∧ Kind.of definition = .ok .unsupported ∧
        describe definition = .ok description ∧ Security.skipped key description ∈ notes := by
  intro e he key hkey
  obtain ⟨past, v, future, split, bound⟩ := bound_of_mem run e he
  have site : v.site.document = document :=
    (Declared.site_of_mem (split ▸ List.mem_append_right past List.mem_cons_self)).1
  obtain ⟨c, c', built⟩ := bound.builds
  obtain ⟨_, _, _, _, _, _, _, _, _, ending⟩ :=
    Operation.ofSite_eq_mk (Logged.eq_mk_of_result built)
  obtain ⟨nothing, _⟩ | ⟨_, whole, reads, _⟩ := ending
  · cases nothing
  cases whole
  obtain ⟨keys, asked, k, member, is_text⟩ := reads.asked hkey
  obtain ⟨components, found, counts⟩ := Site.asksFor_of_security asked
  obtain ⟨_, _, declared, after, last, _, declares, normalized, rfl, _⟩ := ofDocument_eq_mk run
  obtain ⟨written, read, entry, inside, same_key, definition, loop, declared_entry, type⟩ :=
    declared_of_asksFor found (counts k member) (site.symm ▸ declares)
  -- the entry's key is a text, so the key that the operation asks for is that text too
  obtain ⟨name, entry_key⟩ := texts written (site ▸ read) entry inside
  rw [entry_key] at same_key declared_entry
  rw [Scalar.eq_text_of_identity same_key.symm] at is_text
  cases is_text
  rcases settled_of_normalize normalized declared_entry type with
    stored | ⟨lenient, of, description, described, noted⟩
  · exact .inl stored
  · refine .inr ⟨lenient, declared, definition, loop, description, declares, declared_entry, of,
      described, ?_⟩
    exact List.mem_append_right _ (List.mem_append_left _ noted)

end

/-- One operation that asks for schemes of all kinds, one of them by a reference, and for one that
is not declared. -/
def vault : Object :=
  [(.text "paths", .record [("/coins", .record [("get", .record [
      ("responses", answer (.record [("title", .text "Coin")]))])])]),
   (.text "security", .list [.record [("door_key", .list []), ("pass-word", .list [])],
      .record [("badge", .list []), ("login", .list []), ("lost", .list [])]]),
   (.text "components", .record [("securitySchemes", .record [
      ("door_key", Security.headerScheme),
      ("pass-word", .record [("$ref", .text "#/components/securitySchemes/any")]),
      ("any", Security.basicScheme),
      ("badge", .record [("type", .text "http"), ("scheme", .text "bearer")]),
      ("login", .record [("type", .text "oauth2")])])])]

theorem texts_of_keys {document : Object} (names : List String)
    (keys : (writtenSchemes document).toOption.any
      (Entries.keys · == names.map Scalar.text) = true) :
    ∀ written, writtenSchemes document = .ok written → ∀ e ∈ written, ∃ key, e.1 = .text key := by
  obtain ⟨schemes, read, same⟩ := Except.exists_of_any keys
  intro written found e he
  cases read.symm.trans found
  have inside : e.1 ∈ Entries.keys schemes := List.mem_map_of_mem he
  rw [eq_of_beq same] at inside
  obtain ⟨name, _, is_text⟩ := List.mem_map.mp inside
  exact ⟨name, is_text.symm⟩

theorem vault_texts : ∀ written, writtenSchemes vault = .ok written →
    ∀ e ∈ written, ∃ key, e.1 = .text key :=
  texts_of_keys ["door_key", "pass-word", "any", "badge", "login"] (by decide +kernel)

theorem vault_protocols : ∃ notes o, ofDocument vault Options.usual = ⟨notes, .ok o⟩ ∧
    (∀ written, writtenSchemes vault = .ok written → ∀ e ∈ written, ∃ key, e.1 = .text key) ∧
    o.operations.map (·.2.security) = [["door_key", "pass-word", "badge"]] ∧
    Entries.keys o.security = ["doorKey", "passWord", "any"] ∧
    ∃ description, Security.skipped "badge" description ∈ notes := by
  obtain ⟨o, succeeds, found⟩ := Except.exists_of_any (x := (ofDocument vault Options.usual).result)
    (p := fun o => o.operations.map (·.2.security) == [["door_key", "pass-word", "badge"]] &&
      Entries.keys o.security == ["doorKey", "passWord", "any"]) (by decide +kernel)
  simp only [Bool.and_eq_true, beq_iff_eq] at found
  obtain ⟨asked, stored⟩ := found
  have run := Logged.eq_mk_of_result succeeds
  refine ⟨_, o, run, vault_texts, asked, stored, ?_⟩
  obtain ⟨e, member, security⟩ := List.mem_map.mp (asked ▸ List.mem_singleton_self _)
  have badge : "badge" ∈ e.2.security := by simp [security]
  rcases protocols_settled vault Options.usual _ o vault_texts run e member "badge" badge with
    has_scheme | ⟨_, _, _, _, description, _, _, _, _, noted⟩
  · have inside := Entries.isSome_get?.mp has_scheme
    rw [stored] at inside
    exact absurd inside (by decide +kernel)
  · exact ⟨description, noted⟩

end Outline

end ApiOutline
