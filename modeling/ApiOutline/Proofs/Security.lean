import Mathlib.Data.List.Nodup
import ApiOutline.Proofs.Entries
import ApiOutline.Proofs.Log
import ApiOutline.Security

/-! What a successful normalization makes of declared security schemes. Every entry is translated,
or skipped with a warning, or passed over. The schemes that are translated are stored one after the
other under their sanitized keys, so of those that share a name the last one stays. -/
namespace ApiOutline.Security

variable {strict : Bool} {key : Scalar} {t : Tree} {e : Scalar × Tree} {declared : Object}
  {notes : List Note} {found : Option Scheme} {schemes : List (String × Scheme)}

def Kind.IsTranslatable (kind : Kind) : Prop := kind = .apiKey ∨ kind = .basicAuth

def skipped (shown description : String) : Note :=
  ⟨.warning, s!"Security scheme '{shown}' uses an unsupported {description}; skipping it"⟩

def Scheme.name (s : Scheme) : String := Identifier.sanitize s.rawName

@[simp] theorem Scheme.name_ofKind (kind : Kind) (key : String) (o : Object) :
    (Scheme.ofKind kind key o).name = Identifier.sanitize key := rfl

section

variable [Machine]

inductive Normalized (strict : Bool) : Scalar × Tree → List Note → Option Scheme → Prop where
  | noObject {key : Scalar} {t : Tree} : t.object? = none → Normalized strict (key, t) [] none
  | oauth2 {key : Scalar} {o : Object} {loop : Option Nat} : Kind.of o = .ok .oauth2 →
      Normalized strict (key, .object o loop) [] none
  | skipped {key : Scalar} {o : Object} {loop : Option Nat} {description shown : String} :
      strict = false → Kind.of o = .ok .unsupported → describe o = .ok description →
      key.display = .ok shown →
      Normalized strict (key, .object o loop) [skipped shown description] none
  | translated {name : String} {o : Object} {loop : Option Nat} {kind : Kind} :
      Kind.of o = .ok kind → kind.IsTranslatable →
      Normalized strict (.text name, .object o loop) [] (some (Scheme.ofKind kind name o))

omit [Machine] in
theorem eq_of_requireKey {name : String} (taken : requireKey key = .ok name) :
    key = .text name := by
  obtain ⟨_, _, taken⟩ := Except.bind_eq_ok.mp taken
  split at taken
  · cases taken
    rfl
  · cases taken
  · cases taken

theorem normalized_of_normalizeEntry (run : normalizeEntry strict key t = ⟨notes, .ok found⟩) :
    Normalized strict (key, t) notes found := by
  unfold normalizeEntry at run
  split at run
  · rename_i o loop
    obtain ⟨kind, of, run⟩ := Logged.lift_malformed_bind_eq_mk.mp run
    cases kind with
    | oauth2 =>
      obtain ⟨rfl, rfl⟩ := Logged.pure_eq_mk.mp run
      exact .oauth2 of
    | unsupported =>
      obtain ⟨description, described, run⟩ := Logged.lift_malformed_bind_eq_mk.mp run
      obtain ⟨shown, displayed, run⟩ := Logged.lift_malformed_bind_eq_mk.mp run
      cases strict with
      | true => cases run
      | false =>
        obtain ⟨later, final, rfl⟩ := Logged.note_bind_eq_mk.mp run
        obtain ⟨rfl, rfl⟩ := Logged.pure_eq_mk.mp final
        exact .skipped rfl of described displayed
    | apiKey =>
      obtain ⟨name, taken, run⟩ := Logged.lift_bind_eq_mk.mp run
      obtain ⟨rfl, rfl⟩ := Logged.pure_eq_mk.mp run
      rw [eq_of_requireKey taken]
      exact .translated of (.inl rfl)
    | basicAuth =>
      obtain ⟨name, taken, run⟩ := Logged.lift_bind_eq_mk.mp run
      obtain ⟨rfl, rfl⟩ := Logged.pure_eq_mk.mp run
      rw [eq_of_requireKey taken]
      exact .translated of (.inr rfl)
  · rename_i other
    obtain ⟨rfl, rfl⟩ := Logged.pure_eq_mk.mp run
    refine .noObject ?_
    cases t with
    | object o loop => exact absurd rfl (other o loop)
    | _ => rfl

/-! ### All entries -/

def translation : Scalar × Tree → Option Scheme
  | (.text key, .object o _) =>
    match Kind.of o with
    | .ok .apiKey => some (Scheme.ofKind .apiKey key o)
    | .ok .basicAuth => some (Scheme.ofKind .basicAuth key o)
    | _ => none
  | _ => none

theorem translation_of_kind {name : String} {o : Object} {loop : Option Nat} {kind : Kind}
    (of : Kind.of o = .ok kind) (translatable : kind.IsTranslatable) :
    translation (.text name, .object o loop) = some (Scheme.ofKind kind name o) := by
  rcases translatable with rfl | rfl <;> simp only [translation, of]

theorem eq_of_translation {s : Scheme} (h : translation e = some s) :
    ∃ loop, e = (.text s.rawName, .object s.definition loop) ∧ Kind.of s.definition = .ok s.kind ∧
      s.kind.IsTranslatable := by
  unfold translation at h
  split at h
  · rename_i key o loop
    split at h
    · rename_i of
      cases h
      exact ⟨loop, rfl, of, .inl rfl⟩
    · rename_i of
      cases h
      exact ⟨loop, rfl, of, .inr rfl⟩
    · cases h
  · cases h

theorem Normalized.found_eq (normalized : Normalized strict e notes found) :
    found = translation e := by
  cases normalized with
  | @noObject key t other =>
    cases translated : translation (key, t) with
    | none => rfl
    | some s =>
      obtain ⟨loop, same, _⟩ := eq_of_translation translated
      cases same
      cases other
  | @oauth2 key o loop of => cases key <;> simp only [translation, of]
  | @skipped key o loop _ _ _ of => cases key <;> simp only [translation, of]
  | translated of translatable => exact (translation_of_kind of translatable).symm

def store (found : List Scheme) : List (String × Scheme) :=
  found.foldl (fun schemes s => Entries.insert s.name s schemes) []

structure Normalization (strict : Bool) (declared : Object) (notes : List Note)
    (schemes : List (String × Scheme)) : Prop where
  schemes : schemes = store (declared.filterMap translation)
  entry : ∀ e ∈ declared, ∃ about ⊆ notes, Normalized strict e about (translation e)
  note : ∀ n ∈ notes, ∃ shown description, n = skipped shown description

theorem Normalization.entry_step {after : List Note}
    (normalization : Normalization strict declared notes schemes)
    (normalized : Normalized strict e after found) :
    Normalization strict (declared ++ [e]) (notes ++ after)
      ((found.map fun s => Entries.insert s.name s schemes).getD schemes) where
  schemes := by
    rw [normalized.found_eq, normalization.schemes, List.filterMap_append, store, store,
      List.foldl_append]
    cases h : translation e <;> simp [h]
  entry f hf := by
    rcases List.mem_append.mp hf with old | new
    · obtain ⟨about, inside, entry⟩ := normalization.entry f old
      exact ⟨about, List.subset_append_of_subset_left after inside, entry⟩
    · cases List.mem_singleton.mp new
      rw [← normalized.found_eq]
      exact ⟨after, List.subset_append_right notes after, normalized⟩
  note n hn := by
    rcases List.mem_append.mp hn with old | new
    · exact normalization.note n old
    · cases normalized with
      | skipped => exact ⟨_, _, List.mem_singleton.mp new⟩
      | _ => cases new

theorem normalization_of_normalize (run : normalize strict declared = ⟨notes, .ok schemes⟩) :
    Normalization strict declared notes schemes := by
  refine Logged.foldlM_trace (P := Normalization strict) ⟨rfl, by simp, by simp⟩ ?_ run
  intro past before schemes e after schemes' _ normalization step
  obtain ⟨first, found, last, normalized, stored, rfl⟩ := Logged.bind_eq_mk.mp step
  have next := normalization.entry_step (normalized_of_normalizeEntry normalized)
  cases found with
  | none =>
    obtain ⟨rfl, rfl⟩ := Logged.pure_eq_mk.mp stored
    rw [List.append_nil]
    exact next
  | some s =>
    obtain ⟨rfl, rfl⟩ := Logged.pure_eq_mk.mp stored
    rw [List.append_nil]
    exact next

/-! ### Names -/

theorem Normalization.get? (normalization : Normalization strict declared notes schemes)
    (name : String) : Entries.get? name schemes =
      ((declared.filterMap translation).filter (·.name == name)).getLast? := by
  rw [normalization.schemes]
  exact Entries.get?_foldl_insert Scheme.name _ name

theorem Normalization.isSome_get? (normalization : Normalization strict declared notes schemes)
    {s : Scheme} (member : e ∈ declared) (translated : translation e = some s) :
    (Entries.get? s.name schemes).isSome = true := by
  have inside : s ∈ (declared.filterMap translation).filter (·.name == s.name) :=
    List.mem_filter.mpr ⟨List.mem_filterMap.mpr ⟨e, member, translated⟩, BEq.rfl⟩
  rw [normalization.get?, List.getLast?_isSome]
  exact List.ne_nil_of_mem inside

omit [Machine] in
theorem getLast?_filter_iff_nodup {found : List Scheme} (distinct : (found.map (·.rawName)).Nodup) :
    (∀ s ∈ found, ∃ last, (found.filter (·.name == s.name)).getLast? = some last ∧
      last.rawName = s.rawName) ↔ (found.map Scheme.name).Nodup := by
  constructor
  · intro kept
    refine List.pairwise_map.mpr ((List.pairwise_map.mp distinct).imp_of_mem ?_)
    intro s s' hs hs' different same
    obtain ⟨last, found_last, raw⟩ := kept s hs
    obtain ⟨last', found_last', raw'⟩ := kept s' hs'
    rw [same, found_last'] at found_last
    cases found_last
    exact different (raw.symm.trans raw')
  · intro names s hs
    have inside : s ∈ found.filter (·.name == s.name) := List.mem_filter.mpr ⟨hs, BEq.rfl⟩
    obtain ⟨last, found_last⟩ := List.getLast?_isSome.mpr (List.ne_nil_of_mem inside)
      |> Option.isSome_iff_exists.mp
    have member := List.mem_filter.mp (List.mem_of_getLast? found_last)
    have same : last = s := List.inj_on_of_nodup_map names member.1 hs (eq_of_beq member.2)
    exact ⟨last, found_last, by rw [same]⟩

theorem rawNames_nodup (distinct : (Entries.keys declared).Nodup) :
    ((declared.filterMap translation).map (·.rawName)).Nodup := by
  refine List.pairwise_map.mpr (List.pairwise_filterMap.mpr ?_)
  refine (List.pairwise_map.mp distinct).imp ?_
  intro e e' different s translated s' translated' same
  obtain ⟨_, rfl, _⟩ := eq_of_translation translated
  obtain ⟨_, rfl, _⟩ := eq_of_translation translated'
  exact different (congrArg Scalar.text same)

/-- Under every name stands the last scheme with it that can be translated. So all schemes that can
be translated are kept exactly if their names are distinct. -/
theorem schemes_kept_iff (strict : Bool) (declared : Object) (schemes : List (String × Scheme))
    (distinct : (Entries.keys declared).Nodup)
    (succeeds : (normalize strict declared).result = .ok schemes) :
    (∀ name, Entries.get? name schemes =
      ((declared.filterMap translation).filter (·.name == name)).getLast?) ∧
    ((∀ key o loop kind, (.text key, .object o loop) ∈ declared → Kind.of o = .ok kind →
        kind.IsTranslatable → ∃ s, Entries.get? (Identifier.sanitize key) schemes = some s ∧
          s.rawName = key ∧ s.kind = kind) ↔
      ((declared.filterMap translation).map Scheme.name).Nodup) := by
  have normalization := normalization_of_normalize (Logged.eq_mk_of_result succeeds)
  refine ⟨normalization.get?, ?_⟩
  rw [← getLast?_filter_iff_nodup (rawNames_nodup distinct)]
  constructor
  · intro kept s hs
    obtain ⟨e, member, translated⟩ := List.mem_filterMap.mp hs
    obtain ⟨loop, rfl, of, translatable⟩ := eq_of_translation translated
    obtain ⟨last, found, raw, _⟩ := kept s.rawName s.definition loop s.kind member of translatable
    exact ⟨last, (normalization.get? s.name).symm.trans found, raw⟩
  · intro kept key o loop kind member of translatable
    have translated : translation (.text key, .object o loop) = _ :=
      translation_of_kind of translatable
    obtain ⟨last, found, raw⟩ := kept _ (List.mem_filterMap.mpr ⟨_, member, translated⟩)
    refine ⟨last, (normalization.get? _).trans found, raw, ?_⟩
    obtain ⟨f, member', translated'⟩ :=
      List.mem_filterMap.mp (List.mem_filter.mp (List.mem_of_getLast? found)).1
    obtain ⟨loop', rfl, of', _⟩ := eq_of_translation translated'
    -- the last scheme has the same key, so it comes from the same entry
    have same := List.inj_on_of_nodup_map distinct member' member (congrArg Scalar.text raw)
    cases same
    rw [of'] at of
    exact Except.ok.inj of

end

def headerScheme : Tree :=
  .record [("type", .text "apiKey"), ("in", .text "header"), ("name", .text "X-Key")]

def basicScheme : Tree := .record [("type", .text "http"), ("scheme", .text "Basic")]

def keyring : Object :=
  [(.text "api_key", headerScheme), (.text "tokens", .record [("type", .text "oauth2")]),
   (.text "basic-auth", basicScheme)]

theorem keyring_schemes : ∃ schemes, (normalize true keyring).result = .ok schemes ∧
    (Entries.keys keyring).Nodup ∧
    (∃ s, Entries.get? (Identifier.sanitize "api_key") schemes = some s ∧
      s.rawName = "api_key" ∧ s.kind = .apiKey) ∧
    ∃ s, Entries.get? (Identifier.sanitize "basic-auth") schemes = some s ∧
      s.rawName = "basic-auth" ∧ s.kind = .basicAuth := by
  obtain ⟨schemes, succeeds, _⟩ := Except.exists_of_any
    (x := (normalize true keyring).result) (p := fun _ => true) (by decide +kernel)
  have distinct : (Entries.keys keyring).Nodup := by decide
  have names : ((keyring.filterMap translation).map Scheme.name).Nodup := by decide +kernel
  have kept := (schemes_kept_iff true keyring schemes distinct succeeds).2.mpr names
  refine ⟨schemes, succeeds, distinct, ?_, ?_⟩
  · exact kept _ _ none .apiKey (.head _) rfl (.inl rfl)
  · exact kept _ _ none .basicAuth (.tail _ (.tail _ (.head _))) (by decide +kernel) (.inr rfl)

def twins : Object := [(.text "a_b", headerScheme), (.text "a-b", basicScheme)]

/-- No entry is left of the first one. -/
theorem twins_schemes : ∃ schemes, (normalize false twins).result = .ok schemes ∧
    (Entries.keys twins).Nodup ∧ Entries.keys schemes = ["aB"] ∧
    ¬ ∃ s, Entries.get? (Identifier.sanitize "a_b") schemes = some s ∧ s.rawName = "a_b" := by
  obtain ⟨schemes, succeeds, found⟩ := Except.exists_of_any
    (x := (normalize false twins).result)
    (p := fun schemes => Entries.keys schemes == ["aB"] &&
      (Entries.get? (Identifier.sanitize "a_b") schemes).map (·.rawName) == some "a-b")
    (by decide +kernel)
  simp only [Bool.and_eq_true, beq_iff_eq] at found
  refine ⟨schemes, succeeds, by decide, found.1, ?_⟩
  rintro ⟨s, stored, raw⟩
  rw [stored, Option.map_some, raw] at found
  exact absurd found.2 (by decide)

end ApiOutline.Security
