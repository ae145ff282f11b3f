import ApiOutline.Proofs.Identifier
import ApiOutline.Proofs.Security

/-! The names of credentials. A credential is named after its scheme and its slot. Schemes of one
result have distinct names, and no slot's word ends another's, so no two credentials of a result
share a name. -/
namespace ApiOutline.Security

open Identifier (joinWords guarded sanitize IsGraphqlName)

variable {strict : Bool} {declared : Object} {notes : List Note} {schemes : List (String × Scheme)}

def credentialNames (schemes : List (String × Scheme)) : List String :=
  schemes.flatMap fun e => e.2.parameters.map (·.2)

/-! ### One credential -/

def slotWord (slot : String) : List Char := joinWords true slot.toList

theorem toList_credential (key slot : String) : (sanitize (key ++ "_" ++ slot)).toList =
    guarded (joinWords false key.toList ++ slotWord slot) := by
  have joined : joinWords false (key ++ "_" ++ slot).toList =
      joinWords false key.toList ++ slotWord slot := by
    rw [String.toList_append, String.toList_append, List.append_assoc]
    exact Identifier.joinWords_separated (by decide)
  rw [sanitize, String.toList_ofList, joined]

theorem isAlphanum_words (cs : List Char) (slot : String) :
    ∀ c ∈ joinWords false cs ++ slotWord slot, c.isAlphanum = true := by
  intro c hc
  rcases List.mem_append.mp hc with first | last
  · exact Identifier.joinWords_isAlphanum c first
  · exact Identifier.joinWords_isAlphanum c last

theorem slot_mem {kind : Kind} {slot : String} (member : slot ∈ slots kind) :
    slot ∈ ["apiKey", "username", "password"] := by
  cases kind <;> simp [slots] at member <;> simp [member]

theorem eq_of_slotWord {kind kind' : Kind} {slot slot' : String} {cs cs' : List Char}
    (member : slot ∈ slots kind) (member' : slot' ∈ slots kind')
    (same : cs ++ slotWord slot = cs' ++ slotWord slot') : slot = slot' ∧ cs = cs' := by
  have given : ∀ s ∈ ["apiKey", "username", "password"], slotWord s ≠ [] := by decide
  have apart : ∀ s ∈ ["apiKey", "username", "password"],
      ∀ s' ∈ ["apiKey", "username", "password"],
        (slotWord s).getLast? = (slotWord s').getLast? → s = s' := by decide
  have last := congrArg List.getLast? same
  rw [List.getLast?_append_of_ne_nil _ (given slot (slot_mem member)),
    List.getLast?_append_of_ne_nil _ (given slot' (slot_mem member'))] at last
  have same_slot := apart slot (slot_mem member) slot' (slot_mem member') last
  subst same_slot
  exact ⟨rfl, List.append_cancel_right same⟩

theorem credential_inj {kind kind' : Kind} {key key' slot slot' : String}
    (member : slot ∈ slots kind) (member' : slot' ∈ slots kind')
    (same : sanitize (key ++ "_" ++ slot) = sanitize (key' ++ "_" ++ slot')) :
    slot = slot' ∧ sanitize key = sanitize key' := by
  have texts := congrArg String.toList same
  rw [toList_credential, toList_credential] at texts
  have words := Identifier.guarded_inj (isAlphanum_words _ slot) (isAlphanum_words _ slot') texts
  obtain ⟨same_slot, keys⟩ := eq_of_slotWord member member' words
  refine ⟨same_slot, ?_⟩
  rw [sanitize, sanitize, keys]

/-! ### All credentials -/

theorem ofKind_of_translation [Machine] {e : Scalar × Tree} {s : Scheme}
    (translated : translation e = some s) :
    s = Scheme.ofKind s.kind s.rawName s.definition ∧ s.kind.IsTranslatable := by
  obtain ⟨loop, rfl, of, translatable⟩ := eq_of_translation translated
  rw [translation_of_kind of translatable] at translated
  exact ⟨(Option.some.inj translated).symm, translatable⟩

/-- The schemes of a result: each stands under its own name, and each name stands once. -/
structure Listed (schemes : List (String × Scheme)) : Prop where
  names : (Entries.keys schemes).Nodup
  entry : ∀ e ∈ schemes, ∃ kind key o, kind.IsTranslatable ∧
    e = (sanitize key, Scheme.ofKind kind key o)

theorem Normalization.listed [Machine]
    (normalization : Normalization strict declared notes schemes) : Listed schemes := by
  rw [normalization.schemes]
  constructor
  · exact Entries.nodup_keys_foldl_insert Scheme.name _
  · intro e he
    obtain ⟨inside, name⟩ := Entries.mem_foldl_insert he
    obtain ⟨declaration, _, translated⟩ := List.mem_filterMap.mp inside
    obtain ⟨same, translatable⟩ := ofKind_of_translation translated
    refine ⟨e.2.kind, e.2.rawName, e.2.definition, translatable, ?_⟩
    rw [← same]
    exact Prod.ext name rfl

theorem nodup_slots (kind : Kind) : (slots kind).Nodup := by
  cases kind <;> decide

theorem Listed.nodup_credentialNames (listed : Listed schemes) :
    (credentialNames schemes).Nodup := by
  apply List.nodup_flatMap.mpr
  constructor
  · intro e he
    obtain ⟨kind, key, o, _, rfl⟩ := listed.entry e he
    simp only [Scheme.ofKind, List.map_map]
    apply (nodup_slots kind).map_on
    intro slot member slot' member' same
    exact (credential_inj member member' same).1
  · apply (List.pairwise_map.mp listed.names).imp_of_mem
    intro e e' he he' different name first second
    obtain ⟨kind, key, o, _, rfl⟩ := listed.entry e he
    obtain ⟨kind', key', o', _, rfl⟩ := listed.entry e' he'
    simp only [Scheme.ofKind, List.map_map] at first second
    obtain ⟨slot, member, rfl⟩ := List.mem_map.mp first
    obtain ⟨slot', member', same⟩ := List.mem_map.mp second
    exact different (credential_inj member member' same.symm).2

/-- A scheme asks for the credentials of its kind. Over all schemes of a result their names are
distinct, and each of them is a name of GraphQL. -/
theorem credentials_never_clash [Machine] (strict : Bool) (declared : Object)
    (schemes : List (String × Scheme))
    (succeeds : (normalize strict declared).result = .ok schemes) :
    (∀ e ∈ schemes, e.2.kind = .apiKey ∧ Entries.keys e.2.parameters = ["apiKey"] ∨
      e.2.kind = .basicAuth ∧ Entries.keys e.2.parameters = ["username", "password"]) ∧
    (credentialNames schemes).Nodup ∧
    ∀ name ∈ credentialNames schemes, IsGraphqlName name.toList := by
  have listed := (normalization_of_normalize (Logged.eq_mk_of_result succeeds)).listed
  refine ⟨?_, listed.nodup_credentialNames, ?_⟩
  · intro e he
    obtain ⟨kind, key, o, translatable, rfl⟩ := listed.entry e he
    rcases translatable with rfl | rfl
    · exact .inl ⟨rfl, rfl⟩
    · exact .inr ⟨rfl, rfl⟩
  · intro name member
    obtain ⟨e, he, inside⟩ := List.mem_flatMap.mp member
    obtain ⟨kind, key, o, _, rfl⟩ := listed.entry e he
    simp only [Scheme.ofKind, List.map_map] at inside
    obtain ⟨slot, _, rfl⟩ := List.mem_map.mp inside
    exact (Identifier.sanitize_isName _).isGraphqlName

def lockers : Object :=
  [(.text "", headerScheme), (.text "2fa", basicScheme), (.text "2fa_username", headerScheme)]

theorem lockers_credentials : ∃ schemes, (normalize true lockers).result = .ok schemes ∧
    credentialNames schemes =
      ["ApiKey", "_2faUsername", "_2faPassword", "_2faUsernameApiKey"] ∧
    (credentialNames schemes).Nodup := by
  obtain ⟨schemes, succeeds, found⟩ := Except.exists_of_any
    (x := (normalize true lockers).result)
    (p := fun schemes => credentialNames schemes ==
      ["ApiKey", "_2faUsername", "_2faPassword", "_2faUsernameApiKey"]) (by decide +kernel)
  have clear := credentials_never_clash true lockers schemes succeeds
  exact ⟨schemes, succeeds, eq_of_beq found, clear.2.1⟩

end ApiOutline.Security
