import ApiOutline.Program
import ApiOutline.Proofs.Definition.Choice
import ApiOutline.Proofs.Outline.Components
import ApiOutline.Proofs.Outline.Hierarchy
import ApiOutline.Proofs.Security.Credentials
import ApiOutline.Proofs.Tree.Strings

/-! The characters of tables. Apart from ASCII a table has no other characters than the texts of the
document and the capitals of these. -/
namespace ApiOutline

open Text (IsAlphabet)

variable {P : Char → Prop} (alphabet : IsAlphabet P)

/-! ### Origins of names -/

section

include alphabet

theorem Registry.madeOf_proposal {r : Registry} {hints : Option Hints} {raw : String}
    (offered : ∀ hint ∈ Hints.offered hints, Text.MadeOf P hint)
    (proposed : r.proposal hints = .ok raw) : Text.MadeOf P raw := by
  unfold proposal at proposed
  unfold Hints.offered at offered
  cases candidates : (hints.map Hints.candidates).getD [] with
  | nil => simp only [candidates, reduceCtorEq] at proposed
  | cons first others =>
    simp only [candidates] at proposed offered
    split at proposed
    · rename_i found
      cases proposed
      exact offered _ (List.mem_of_find?_eq_some found)
    · cases proposed
      exact (alphabet.sanitize first).append (alphabet.number _)

def Catalog.HasOrigins (P : Char → Prop) (c : Catalog) : Prop :=
  ∀ e ∈ c.names.origins, Text.MadeOf P e.2

theorem Catalog.HasOrigins.outcome [Machine] {c c' : Catalog} {t : Tree} {hints : Option Hints}
    {answer : Option Definition} (known : c.HasOrigins P)
    (offered : ∀ hint ∈ Hints.offered hints, Text.MadeOf P hint)
    (outcome : Outcome c t hints (.ok answer) c') : c'.HasOrigins P := by
  cases outcome with
  | absent => exact known
  | reused => exact known
  | created _ proposed _ =>
    intro e he
    rcases Entries.mem_of_mem_insert he with rfl | old
    · exact Registry.madeOf_proposal alphabet offered proposed
    · exact known e old

theorem Site.madeOf_named [Machine] {s : Site} {t : Tree} {required : Bool} {p : Payload}
    (whole : s.root.MadeOf P) (path : ∀ text, s.path = .text text → Text.MadeOf P text)
    (made : t.MadeOf P) (named : s.named t required = .ok p) :
    ∀ hint ∈ Hints.offered (some p.hints), Text.MadeOf P hint := by
  obtain ⟨name, suggested, named⟩ := Except.bind_eq_ok.mp named
  obtain ⟨resolved, reached, named⟩ := Except.bind_eq_ok.mp named
  cases named
  have is_resolved := Tree.madeOf_hereditary.resolve whole made reached
  intro hint member
  simp only [Hints.offered, Option.map_some, Option.getD_some, Hints.candidates, List.mem_append,
    Option.mem_toList] at member
  rcases member with (referred | titled) | called
  · obtain ⟨r, is_reference, rfl⟩ := Option.map_eq_some_iff.mp referred
    obtain ⟨v, is_object, is_text⟩ := Option.bind_eq_some_iff.mp is_reference
    refine alphabet.referenceName (Tree.MadeOf.text? ?_ is_text)
    cases t with
    | object o loop =>
      exact Tree.madeOf_hereditary.get? (Tree.madeOf_hereditary.object made) is_object
    | _ => cases is_object
  · have inside := Tree.madeOf_hereditary.field
      (Tree.madeOf_hereditary.entriesOrNone is_resolved) "title"
    exact Tree.MadeOf.text? inside titled
  · cases called
    unfold pathName at suggested
    split at suggested
    · rename_i text is_path
      cases suggested
      exact alphabet.ofPath (path text is_path)
    · cases suggested
    · cases suggested

theorem Site.madeOf_hints [Machine] {s : Site} {p : Payload} (whole : s.root.MadeOf P)
    (path : ∀ text, s.path = .text text → Text.MadeOf P text)
    (found : p.schema = .null ∧ p.hints = Hints.empty ∨
      ∃ t required, t.MadeOf P ∧ s.named t required = .ok p) :
    ∀ hint ∈ Hints.offered (some p.hints), Text.MadeOf P hint := by
  rcases found with ⟨_, nothing⟩ | ⟨t, required, made, named⟩
  · rw [nothing]
    intro hint member
    cases member
  · exact madeOf_named alphabet whole path made named

end

namespace Declared

variable {document : Object} {v : Declared} [Machine]

theorem root_of_mem (member : v ∈ ofDocument document) : v.site.root = .object document := by
  rw [Site.root, (site_of_mem member).1]

theorem madeOf_path (whole : (Tree.object document).MadeOf P) (member : v ∈ ofDocument document)
    {text : String} (is_path : v.site.path = .text text) : Text.MadeOf P text := by
  obtain ⟨_, paths, found, entry, inside, same⟩ := site_of_mem member
  exact (Tree.madeOf_hereditary.inner whole found).key inside (same.symm.trans is_path)

theorem madeOf_endpoint (whole : (Tree.object document).MadeOf P)
    (member : v ∈ ofDocument document) : (Tree.object v.endpoint).MadeOf P := by
  obtain ⟨found, inside, resolved, declared, _⟩ := place_of_mem member
  have paths := Tree.madeOf_hereditary.inner whole found
  have item := Tree.madeOf_hereditary.resolve whole (Tree.madeOf_hereditary.entry paths inside)
    resolved
  exact Tree.madeOf_hereditary.object (Tree.madeOf_hereditary.entry
    (Tree.madeOf_hereditary.object item) declared)

end Declared

namespace Outline

variable [Machine]

variable {document : Object} {options : Options} {o : Outline} {e : String × Operation}

section

variable (whole : (Tree.object document).MadeOf P)
include alphabet whole

theorem hasOrigins_of_visit {v : Declared} {p p' : Progress}
    (member : v ∈ Declared.ofDocument document) (known : p.catalog.HasOrigins P)
    (run : (v.visit options p).result = .ok p') : p'.catalog.HasOrigins P := by
  obtain ⟨⟨built, c⟩, found, rest⟩ := Logged.bind_eq_ok.mp run
  obtain ⟨_, _, _, asked, answered, is_request, is_result, for_request, for_response, _⟩ :=
    Operation.outcome_of_ofSite found
  have root : v.site.root.MadeOf P := Declared.root_of_mem member ▸ whole
  have path (text : String) (h : v.site.path = .text text) := Declared.madeOf_path whole member h
  have offered := Site.madeOf_hints alphabet root path
    (Tree.madeOf_hereditary.named_of_request root is_request)
  have offered' := Site.madeOf_hints alphabet root path
    (Tree.madeOf_hereditary.named_of_result root is_result)
  have known' : c.HasOrigins P :=
    (known.outcome alphabet offered for_request).outcome alphabet offered' for_response
  cases built with
  | none =>
    cases rest
    exact known'
  | some stored =>
    rw [eq_of_add rest]
    exact known'

theorem hasOrigins_of_ofDocument (succeeds : (ofDocument document options).result = .ok o) :
    o.catalog.HasOrigins P := by
  obtain ⟨p, visited, catalog, _⟩ := mem_operations succeeds
  have run := Logged.eq_mk_of_result visited
  rw [visit_eq visited] at run
  rw [catalog]
  have nothing : Catalog.empty.HasOrigins P := fun _ he => by cases he
  exact Logged.foldlM_trace (P := fun _ _ p => p.catalog.HasOrigins P) nothing
    (fun _ _ _ _ _ _ member known step =>
      hasOrigins_of_visit alphabet whole member known (congrArg Logged.result step)) run

end

/-! ### Operations and schemes -/

theorem madeOf_id {v : Declared} (alphabet : IsAlphabet P)
    (whole : (Tree.object document).MadeOf P) (member : v ∈ Declared.ofDocument document)
    {id : String} (identified : Operation.identify v.site v.endpoint = .ok id) :
    Text.MadeOf P id := by
  unfold Operation.identify at identified
  split at identified
  · rename_i explicit
    cases identified
    have endpoint := Declared.madeOf_endpoint whole member
    exact (Tree.madeOf_hereditary.field endpoint "operationId").text? explicit
  · obtain ⟨method, _, identified⟩ := Except.bind_eq_ok.mp identified
    obtain ⟨path, _, identified⟩ := Except.bind_eq_ok.mp identified
    cases identified
    exact alphabet.sanitize _

theorem madeOf_operation (alphabet : IsAlphabet P) (whole : (Tree.object document).MadeOf P)
    (succeeds : (ofDocument document options).result = .ok o) (he : e ∈ o.operations) :
    e.1 = e.2.id ∧ Text.MadeOf P e.2.id ∧ Text.MadeOf P e.2.path := by
  obtain ⟨key, v, member, claims, names⟩ := declared_of_mem succeeds he
  exact ⟨key, madeOf_id alphabet whole member names.id,
    Declared.madeOf_path whole member (path_of_names claims names)⟩

theorem madeOf_subOperations (alphabet : IsAlphabet P) (whole : (Tree.object document).MadeOf P)
    (succeeds : (ofDocument document options).result = .ok o) (he : e ∈ o.operations) :
    ∀ id ∈ e.2.subOperations.getD [], Text.MadeOf P id := by
  intro id member
  rcases subOperations_of_mem succeeds he with nothing | nested
  · rw [nothing] at member
    cases member
  · rw [nested, Option.getD_some] at member
    obtain ⟨_, _, r, inside, rfl, _⟩ := Route.mem_subOperations.mp member
    obtain ⟨f, hf, rfl⟩ := List.mem_map.mp inside
    exact (madeOf_operation alphabet whole succeeds hf).2.1

theorem madeOf_scheme (whole : (Tree.object document).MadeOf P)
    (succeeds : (ofDocument document options).result = .ok o) {e : String × Security.Scheme}
    (he : e ∈ o.security) : Text.MadeOf P e.2.rawName ∧ ∃ kind key definition,
      e = (Identifier.sanitize key, Security.Scheme.ofKind kind key definition) := by
  obtain ⟨_, _, declared, _, _, _, found, normalized, _⟩ :=
    ofDocument_eq_mk (Logged.eq_mk_of_result succeeds)
  have normalization := Security.normalization_of_normalize normalized
  obtain ⟨kind, key, definition, _, same⟩ := normalization.listed.entry e he
  refine ⟨?_, kind, key, definition, same⟩
  rw [normalization.schemes] at he
  obtain ⟨entry, inside, translated⟩ := List.mem_filterMap.mp (Entries.mem_foldl_insert he).1
  obtain ⟨_, rfl, _⟩ := Security.eq_of_translation translated
  obtain ⟨components, is_components, found⟩ := Except.bind_eq_ok.mp found
  obtain ⟨schemes, is_schemes, found⟩ := Except.bind_eq_ok.mp found
  obtain ⟨⟨k, t⟩, member, resolved⟩ := Except.exists_of_mem_mapM found inside
  obtain ⟨_, _, resolved⟩ := Except.bind_eq_ok.mp resolved
  have is_key : k = .text e.2.rawName := (Prod.mk.inj (Except.ok.inj resolved)).1
  have made := Tree.madeOf_hereditary.inner
    (Tree.madeOf_hereditary.inner whole is_components) is_schemes
  exact made.key member is_key

end Outline

/-! ### Rows -/

namespace Program

open Outline (ofDocument)

variable [Machine]

variable {document : Object} {options : Options} {o : Outline}

section

variable (whole : (Tree.object document).MadeOf P)
  (succeeds : (ofDocument document options).result = .ok o)
include alphabet whole succeeds

theorem madeOf_definitionRow {d : Definition} (member : d ∈ o.catalog.definitions) :
    ∀ cell ∈ definitionRow o d, Text.MadeOf P cell := by
  obtain ⟨raw, found, sanitized⟩ := Outline.exists_origin succeeds member
  have object : Text.MadeOf P d.objectName := sanitized ▸ alphabet.sanitize raw
  have input : Text.MadeOf P d.inputName := by
    rw [(Outline.catalog_named succeeds).inputs d member]
    exact object.append (alphabet.literal rfl)
  have origin : Text.MadeOf P raw := Outline.hasOrigins_of_ofDocument alphabet whole succeeds
    (d.objectName, raw) (Entries.mem_of_get? found)
  rw [definitionRow, found, Option.getD_some]
  simp only [List.forall_mem_cons, List.not_mem_nil, IsEmpty.forall_iff, implies_true, and_true]
  exact ⟨object, input, origin, alphabet.number _⟩

theorem madeOf_operationRow {e : String × Operation} (he : e ∈ o.operations) :
    ∀ cell ∈ operationRow e.2, Text.MadeOf P cell := by
  have named (slot : Outline.Slot) {d : Definition} (given : slot.definition? e.2 = some d) :
      Text.MadeOf P d.objectName := by
    obtain ⟨raw, _, sanitized⟩ :=
      Outline.exists_origin succeeds (Outline.Slot.mem_definitions succeeds he given)
    exact sanitized ▸ alphabet.sanitize raw
  obtain ⟨_, id, path⟩ := Outline.madeOf_operation alphabet whole succeeds he
  have method : Text.MadeOf P (Text.upperAscii e.2.method.word) := by
    cases e.2.method <;> exact alphabet.literal rfl
  have request : Text.MadeOf P ((e.2.request.map (·.objectName)).getD "-") := by
    cases given : e.2.request with
    | none => exact alphabet.literal rfl
    | some d => exact named .request given
  have nested := Outline.madeOf_subOperations alphabet whole succeeds he
  simp only [operationRow, List.forall_mem_cons, List.not_mem_nil, IsEmpty.forall_iff,
    implies_true, and_true]
  refine ⟨id, method, path, request, named .response rfl, ?_⟩
  split
  · exact alphabet.literal rfl
  · exact Text.MadeOf.intercalate (alphabet.literal rfl) nested

theorem madeOf_schemeRow {e : String × Security.Scheme} (he : e ∈ o.security) :
    ∀ cell ∈ schemeRow e, Text.MadeOf P cell := by
  obtain ⟨raw, kind, key, definition, rfl⟩ := Outline.madeOf_scheme whole succeeds he
  have word : Text.MadeOf P kind.word := by
    cases kind <;> exact alphabet.literal rfl
  have ascii : ∀ slot ∈ ["apiKey", "username", "password"],
      slot.toList.all (·.toNat < 128) = true := by decide
  simp only [schemeRow, List.forall_mem_cons, List.not_mem_nil, IsEmpty.forall_iff,
    implies_true, and_true]
  refine ⟨alphabet.sanitize key, raw, word, Text.MadeOf.intercalate (alphabet.literal rfl) ?_⟩
  intro parameter member
  obtain ⟨_, inside, rfl⟩ := List.mem_map.mp member
  obtain ⟨s, is_slot, rfl⟩ := List.mem_map.mp inside
  have slot : Text.MadeOf P s := alphabet.literal (ascii s (Security.slot_mem is_slot))
  exact (slot.append (alphabet.literal rfl)).append (alphabet.sanitize _)

end

end Program

end ApiOutline
