import Mathlib.Logic.Relation
import ApiOutline.Proofs.Outline.Endpoints
import ApiOutline.Proofs.Outline.Summary

/-! Sub-operations as a hierarchy. Of two paths that contain each other neither is longer, so a
circle of sub-operations stays on one path. An item has more than one GET operation only if it has
GET for a key more than once, in different cases. -/
namespace ApiOutline

/-- A schema of a response is found only under a path that is a text, which it may be named
after. -/
theorem Site.path_of_responseSchema [Machine] {s : Site} (given : s.responseSchema.isSome = true) :
    ∃ path, s.path = .text path := by
  obtain ⟨t, is_schema⟩ := Option.isSome_iff_exists.mp given
  obtain ⟨p, found, schema, _, _, rfl⟩ := Site.exists_of_schema is_schema
  obtain ⟨response, _, found⟩ := Except.bind_eq_ok.mp found
  obtain ⟨_, _, found⟩ := Except.bind_eq_ok.mp found
  split at found
  · cases found
    cases schema
  · obtain ⟨name, named, _⟩ := Except.bind_eq_ok.mp found
    unfold pathName at named
    split at named
    · rename_i path is_path
      exact ⟨path, is_path⟩
    · cases named
    · cases named

namespace Outline

open Relation (TransGen)

variable {document : Object} {options : Options} {o : Outline} {e f g : String × Operation}
  {id sub : String}

/-- Whether an operation is listed among the sub-operations of another one. -/
def Nests (o : Outline) (id sub : String) : Prop :=
  ∃ e ∈ o.operations, e.1 = id ∧ sub ∈ e.2.subOperations.getD []

instance : Decidable (o.Nests id sub) :=
  inferInstanceAs (Decidable (∃ e ∈ o.operations, e.1 = id ∧ sub ∈ e.2.subOperations.getD []))

/-- Whether the path of a GET operation contains the one of another, which stands for a single
resource. -/
structure LiesBelow (f e : String × Operation) : Prop where
  method : e.2.method = .get
  method' : f.2.method = .get
  parameter : Route.hasParameter e.2.path = true
  inside : e.2.path.toList <:+: f.2.path.toList

theorem LiesBelow.trans (first : LiesBelow f e) (second : LiesBelow g f) : LiesBelow g e :=
  ⟨first.method, second.method', first.parameter, first.inside.trans second.inside⟩

/-- Two different GET operations on one path with a parameter. -/
structure SharePath (e f : String × Operation) : Prop where
  other : f.1 ≠ e.1
  method : e.2.method = .get
  method' : f.2.method = .get
  parameter : Route.hasParameter e.2.path = true
  path : e.2.path = f.2.path

instance : Decidable (SharePath e f) :=
  decidable_of_iff (f.1 ≠ e.1 ∧ e.2.method = .get ∧ f.2.method = .get ∧
      Route.hasParameter e.2.path = true ∧ e.2.path = f.2.path)
    ⟨fun ⟨other, method, method', parameter, path⟩ => ⟨other, method, method', parameter, path⟩,
      fun ⟨other, method, method', parameter, path⟩ => ⟨other, method, method', parameter, path⟩⟩

theorem SharePath.symm (share : SharePath e f) : SharePath f e :=
  ⟨share.other.symm, share.method', share.method, share.path ▸ share.parameter, share.path.symm⟩

theorem SharePath.liesBelow (share : SharePath e f) : LiesBelow f e :=
  ⟨share.method, share.method', share.parameter, share.path ▸ List.infix_rfl⟩

theorem LiesBelow.sharePath (below : LiesBelow f e) (above : LiesBelow e f) (other : f.1 ≠ e.1) :
    SharePath e f := by
  -- Of two paths that contain each other neither is longer.
  have length := Nat.le_antisymm below.inside.length_le above.inside.length_le
  have same := below.inside.eq_of_length length
  exact ⟨other, below.method, below.method', below.parameter, String.toList_injective same⟩

/-- An outline whose operations stand under their ids, with their sub-operations. -/
structure Nested (o : Outline) : Prop where
  unique : (Entries.keys o.operations).Nodup
  key : ∀ e ∈ o.operations, e.1 = e.2.id
  subOperations : ∀ e ∈ o.operations, e.2.subOperations =
    some (e.2.toRoute.subOperations (o.operations.map (·.2.toRoute)))

theorem declared_of_mem [Machine] (succeeds : (ofDocument document options).result = .ok o)
    (he : e ∈ o.operations) : e.1 = e.2.id ∧
      ∃ v ∈ Declared.ofDocument document, v.Claims e.1 ∧ v.Names e.2 := by
  obtain ⟨past, v, future, split, origin⟩ := origin_of_mem succeeds he
  exact ⟨origin.key, v, split ▸ List.mem_append_right _ List.mem_cons_self,
    (origin.claims_iff e.1).mpr rfl, origin.names⟩

theorem nested_of_ofDocument [Machine] (succeeds : (ofDocument document options).result = .ok o)
    (on : options.addSubOperations = true) : o.Nested := by
  obtain ⟨p, visited, _, keys, _⟩ := mem_operations succeeds
  exact ⟨keys ▸ (follows_of_visit visited).unique, fun e he => (declared_of_mem succeeds he).1,
    fun e he => subOperations_of_on succeeds on he⟩

theorem Nested.nests_iff (nested : o.Nested) : o.Nests id sub ↔
    ∃ e ∈ o.operations, ∃ f ∈ o.operations, e.1 = id ∧ f.1 = sub ∧ f.1 ≠ e.1 ∧ LiesBelow f e := by
  constructor
  · rintro ⟨e, he, rfl, member⟩
    rw [nested.subOperations e he] at member
    obtain ⟨method, parameter, _, inside, same, other, method', below⟩ :=
      Route.mem_subOperations.mp member
    obtain ⟨f, hf, rfl⟩ := List.mem_map.mp inside
    have key := nested.key f hf
    refine ⟨e, he, f, hf, rfl, key.trans same, ?_, method, method', parameter, below⟩
    rw [key, nested.key e he]
    exact other
  · rintro ⟨e, he, f, hf, rfl, rfl, other, below⟩
    refine ⟨e, he, rfl, ?_⟩
    rw [nested.subOperations e he]
    refine Route.mem_subOperations.mpr ⟨below.method, below.parameter, f.2.toRoute,
      List.mem_map_of_mem hf, (nested.key f hf).symm, ?_, below.method', below.inside⟩
    rw [nested.key e he, nested.key f hf] at other
    exact other

theorem Nested.nests_of_sharePath (nested : o.Nested) (he : e ∈ o.operations)
    (hf : f ∈ o.operations) (share : SharePath e f) : o.Nests e.1 f.1 :=
  nested.nests_iff.mpr ⟨e, he, f, hf, rfl, rfl, share.other, share.liesBelow⟩

theorem Nested.eq_of_key (nested : o.Nested) (he : e ∈ o.operations) (hf : f ∈ o.operations)
    (same : e.1 = f.1) : e = f :=
  List.inj_on_of_nodup_map nested.unique he hf same

/-- A chain of sub-operations leads below its first operation: along it every path contains the
one before it. -/
theorem Nested.liesBelow_of_chain (nested : o.Nested) (he : e ∈ o.operations)
    (hf : f ∈ o.operations) (chain : TransGen o.Nests e.1 f.1) : LiesBelow f e := by
  generalize last : f.1 = sub at chain
  induction chain generalizing f with
  | single step =>
    obtain ⟨e', he', f', hf', first, last', _, below⟩ := nested.nests_iff.mp step
    cases nested.eq_of_key he' he first
    cases nested.eq_of_key hf' hf (last'.trans last.symm)
    exact below
  | tail _ step ih =>
    obtain ⟨middle, inside, f', hf', at_middle, last', _, below⟩ := nested.nests_iff.mp step
    cases nested.eq_of_key hf' hf (last'.trans last.symm)
    exact (ih inside at_middle).trans below

/-- Two different operations lead to one another exactly if they share a path. -/
theorem Nested.chains_iff (nested : o.Nested) (he : e ∈ o.operations) (hf : f ∈ o.operations)
    (other : f.1 ≠ e.1) :
    TransGen o.Nests e.1 f.1 ∧ TransGen o.Nests f.1 e.1 ↔ SharePath e f := by
  constructor
  · rintro ⟨down, up⟩
    have below := nested.liesBelow_of_chain he hf down
    exact below.sharePath (nested.liesBelow_of_chain hf he up) other
  · intro share
    exact ⟨.single (nested.nests_of_sharePath he hf share),
      .single (nested.nests_of_sharePath hf he share.symm)⟩

theorem Nested.acyclic_iff (nested : o.Nested) : (∀ id, ¬ TransGen o.Nests id id) ↔
    ∀ e ∈ o.operations, ∀ f ∈ o.operations, ¬ SharePath e f := by
  constructor
  · intro acyclic e he f hf share
    obtain ⟨down, up⟩ := (nested.chains_iff he hf share.other).mpr share
    exact acyclic e.1 (down.trans up)
  · intro apart id circle
    -- The first link of a circle leads to another operation, as none is below itself, and the rest
    -- of it leads back.
    obtain ⟨sub, first, rest⟩ := Relation.TransGen.head'_iff.mp circle
    obtain ⟨e, he, f, hf, rfl, rfl, other, _⟩ := nested.nests_iff.mp first
    rcases Relation.reflTransGen_iff_eq_or_transGen.mp rest with same | back
    · exact other same.symm
    · exact apart e he f hf ((nested.chains_iff he hf other).mp ⟨.single first, back⟩)

/-- Operations that share a path are declared under two keys of one item, both of them GET. -/
structure TwoKeys (v w : Declared) : Prop where
  path : v.site.path = w.site.path
  key : v.site.method ≠ w.site.method
  method : Method.ofKey? v.site.method = some .get
  method' : Method.ofKey? w.site.method = some .get

theorem path_of_names [Machine] {v : Declared} (claims : v.Claims id) (names : v.Names e.2) :
    v.site.path = .text e.2.path := by
  obtain ⟨path, is_text⟩ := Site.path_of_responseSchema claims.1
  have shown := names.path
  rw [is_text] at shown ⊢
  cases shown
  rfl

theorem SharePath.twoKeys [Machine] (share : SharePath e f)
    (formed : (Tree.object document).wellFormed = true)
    (succeeds : (ofDocument document options).result = .ok o) (he : e ∈ o.operations)
    (hf : f ∈ o.operations) : ∃ v ∈ Declared.ofDocument document,
      ∃ w ∈ Declared.ofDocument document, v.Names e.2 ∧ w.Names f.2 ∧ TwoKeys v w := by
  obtain ⟨key, v, hv, claims, names⟩ := declared_of_mem succeeds he
  obtain ⟨key', w, hw, claims', names'⟩ := declared_of_mem succeeds hf
  have path : v.site.path = w.site.path := by
    rw [path_of_names claims names, path_of_names claims' names', share.path]
  refine ⟨v, hv, w, hw, names, names', path, fun same => share.other ?_, ?_, ?_⟩
  · have one_document : v.site.document = w.site.document :=
      (Declared.site_of_mem hv).1.trans (Declared.site_of_mem hw).1.symm
    have one_site : v.site = w.site := by
      obtain ⟨⟨_, _, _⟩, _, _⟩ := v
      obtain ⟨⟨_, _, _⟩, _, _⟩ := w
      cases path
      cases same
      cases one_document
      rfl
    cases Declared.eq_of_site formed hv hw one_site
    rw [key, key']
    exact Except.ok.inj (names'.id.symm.trans names.id)
  · rw [(Declared.place_of_mem hv).method_eq, ← names.method, share.method]
  · rw [(Declared.place_of_mem hw).method_eq, ← names'.method, share.method']

/-- With the option on, two different operations are below one another exactly if both are GET
operations on one path with a parameter, and without such a pair the sub-operations form a
hierarchy. If keys are unique, the document declares such a pair under two keys of one item, which
are both GET. -/
theorem nests_acyclic_iff [Machine] (document : Object) (options : Options) (o : Outline)
    (succeeds : (ofDocument document options).result = .ok o)
    (on : options.addSubOperations = true) :
    ((∀ id, ¬ TransGen o.Nests id id) ↔
      ∀ e ∈ o.operations, ∀ f ∈ o.operations, ¬ SharePath e f) ∧
    (∀ e ∈ o.operations, ∀ f ∈ o.operations, f.1 ≠ e.1 →
      (TransGen o.Nests e.1 f.1 ∧ TransGen o.Nests f.1 e.1 ↔ SharePath e f)) ∧
    ((Tree.object document).wellFormed = true →
      ∀ e ∈ o.operations, ∀ f ∈ o.operations, SharePath e f →
        ∃ v ∈ Declared.ofDocument document, ∃ w ∈ Declared.ofDocument document,
          v.Names e.2 ∧ w.Names f.2 ∧ TwoKeys v w) := by
  have nested := nested_of_ofDocument succeeds on
  exact ⟨nested.acyclic_iff, fun _ he _ hf => nested.chains_iff he hf,
    fun formed _ he _ hf share => share.twoKeys formed succeeds he hf⟩

theorem club_acyclic : ∃ o, (ofDocument club ⟨true, true, false, []⟩).result = .ok o ∧
    o.Nests "user" "friends" ∧ ∀ id, ¬ TransGen o.Nests id id := by
  obtain ⟨o, succeeds, found⟩ := Except.exists_of_any
    (x := (ofDocument club ⟨true, true, false, []⟩).result)
    (p := fun o => decide (o.Nests "user" "friends" ∧
      ∀ e ∈ o.operations, ∀ f ∈ o.operations, ¬ SharePath e f)) (by decide +kernel)
  obtain ⟨listed, apart⟩ := of_decide_eq_true found
  exact ⟨o, succeeds, listed,
    (nests_acyclic_iff club ⟨true, true, false, []⟩ o succeeds rfl).1.mpr apart⟩

def mirror : Object :=
  let responses := answer (.record [("title", .text "User")])
  [(.text "paths", .record [("/users/\x7bid\x7d", .record [
    ("get", .record [("operationId", .text "user"), ("responses", responses)]),
    ("GET", .record [("operationId", .text "twin"), ("responses", responses)])])])]

/-- The two operations of the mirror are sub-operations of each other. -/
theorem mirror_circle : ∃ o, (ofDocument mirror ⟨true, true, false, []⟩).result = .ok o ∧
    o.Nests "user" "twin" ∧ o.Nests "twin" "user" ∧ TransGen o.Nests "user" "user" := by
  obtain ⟨o, succeeds, found⟩ := Except.exists_of_any
    (x := (ofDocument mirror ⟨true, true, false, []⟩).result)
    (p := fun o => decide (o.Nests "user" "twin" ∧ o.Nests "twin" "user")) (by decide +kernel)
  obtain ⟨down, up⟩ := of_decide_eq_true found
  exact ⟨o, succeeds, down, up, .tail (.single down) up⟩

end Outline

end ApiOutline
