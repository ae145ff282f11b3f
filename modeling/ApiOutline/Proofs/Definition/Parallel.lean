import ApiOutline.Proofs.Definition.Distinct
import ApiOutline.Proofs.Definition.Reuse

/-! Two runs of calls for schemas that are equal call by call. A definition is found by its schema
alone, so both runs give the same places away. Names have no part in this, and where the hints agree
as well the names do so too. -/
namespace ApiOutline

namespace Tree

structure Twins (t u : Tree) : Prop where
  left : t.wellFormed = true
  right : u.wellFormed = true
  equal : t.same u = true

theorem Twins.symm {t u : Tree} (twins : Twins t u) : Twins u t :=
  ⟨twins.right, twins.left, same_symm twins.left twins.right twins.equal⟩

theorem Twins.same_congr {t u x y : Tree} (outer : Twins t u) (inner : Twins x y) :
    t.same x = u.same y := by
  have carry {t u x y : Tree} (outer : Twins t u) (inner : Twins x y) (h : t.same x = true) :
      u.same y = true :=
    same_trans outer.symm.equal (same_trans h inner.equal)
  apply Bool.eq_iff_iff.mpr
  constructor
  · intro h
    exact carry outer inner h
  · intro h
    exact carry outer.symm inner.symm h

variable {kept kept' : List Tree} {t u : Tree}

theorem any_same_congr (pairs : List.Forall₂ Twins kept kept') (twins : Twins t u) :
    kept.any (t.same ·) = kept'.any (u.same ·) := by
  induction pairs with
  | nil => rfl
  | cons first _ ih => simp only [List.any_cons, twins.same_congr first, ih]

theorem place_congr (pairs : List.Forall₂ Twins kept kept') (twins : Twins t u) :
    place kept t = place kept' u := by
  unfold place
  induction pairs with
  | nil => rfl
  | cons first _ ih => simp only [List.findIdx_cons, twins.same_congr first, ih]

theorem keep_congr (pairs : List.Forall₂ Twins kept kept') (twins : Twins t u) :
    List.Forall₂ Twins (keep kept t) (keep kept' u) := by
  unfold keep
  rw [any_same_congr pairs twins]
  split
  · exact pairs
  · exact List.rel_append pairs (.cons twins .nil)

end Tree

namespace Catalog

open ApiOutline.Tree (Twins keep place)
open Machine (comparedLevels)

variable {c c' d d' : Catalog} {a b : Call} {calls calls' : List Call} {hints : Option Hints}
  {found found' : Option Definition}

section

variable [Machine]

def Call.Alike (a b : Call) : Prop :=
  a.schema.isNull = true ∧ b.schema.isNull = true ∨ a.schema.compare b.schema = .ok true

def Call.HasHint (a : Call) : Prop := (a.hints.map Hints.candidates).getD [] ≠ []

instance (a : Call) : Decidable a.HasHint :=
  inferInstanceAs (Decidable ((a.hints.map Hints.candidates).getD [] ≠ []))

theorem Call.Alike.compare (alike : a.Alike b) : a.schema.compare b.schema = .ok true := by
  rcases alike with ⟨null, null'⟩ | equal
  · rw [Tree.eq_null_of_isNull null, Tree.eq_null_of_isNull null']
    rfl
  · exact equal

theorem Call.Alike.twins (alike : a.Alike b) : Twins a.schema b.schema :=
  ⟨a.formed, b.formed, Tree.same_of_compare alike.compare⟩

theorem Call.Alike.isNull_eq (alike : a.Alike b) : a.schema.isNull = b.schema.isNull := by
  have twins := alike.twins
  apply Bool.eq_iff_iff.mpr
  constructor
  · exact Tree.isNull_of_same twins.symm.equal
  · exact Tree.isNull_of_same twins.equal

theorem Call.succeeds (c : Catalog) (shallow : a.schema.height ≤ comparedLevels)
    (hinted : a.HasHint) : ∃ found, (a.run c).1.result = .ok found := by
  have outcome := a.outcome c
  generalize (a.run c).1.result = answer, (a.run c).2 = d at outcome ⊢
  cases outcome with
  | tooDeep _ deep => omega
  | nameless proposed => exact absurd (Registry.proposal_eq_error.mp proposed).2 hinted
  | _ => exact ⟨_, rfl⟩

theorem Outcome.of_isNull {t : Tree} (outcome : Outcome c t hints (.ok found) d)
    (null : t.isNull = true) : found = none ∧ d = c := by
  cases outcome with
  | absent => exact ⟨rfl, rfl⟩
  | reused given => simp [null] at given
  | created given => simp [null] at given

def knows (c : Catalog) (t : Tree) : Bool := t.isNull || c.schemas.any (t.same ·)

theorem Outcome.names {t : Tree} (outcome : Outcome c t hints (.ok found) d) :
    c.knows t = true ∧ d.names = c.names ∨
      c.knows t = false ∧
        ∃ raw, c.names.proposal hints = .ok raw ∧ d.names = (c.names.register raw).2 := by
  cases outcome with
  | absent null => exact .inl ⟨by simp [knows, null], rfl⟩
  | reused _ first =>
    refine .inl ⟨?_, rfl⟩
    have equal := List.find?_some first
    have member := List.mem_of_find?_eq_some first
    have hit : c.schemas.any (t.same ·) = true :=
      List.any_eq_true.mpr ⟨_, List.mem_map_of_mem member, equal⟩
    simp [knows, hit]
  | @created raw given proposed first =>
    refine .inr ⟨?_, raw, proposed, rfl⟩
    have miss := List.find?_eq_none.mp first
    simpa [knows, given, schemas] using miss

/-- The place that a call gets: that of a definition, or none without a schema. -/
def Call.Gets (c : Catalog) (a : Call) : Option Nat → Prop
  | none => (a.run c).1.result = .ok none
  | some i => ∃ d, (a.run c).1.result = .ok (some d) ∧ (a.run c).2.definitions[i]? = some d

/-! ### Catalogs side by side -/

def Parallel (c c' : Catalog) : Prop := List.Forall₂ Twins c.schemas c'.schemas

omit [Machine] in
theorem empty_parallel : Parallel empty empty := List.Forall₂.nil

structure Call.Paired (a b : Call) : Prop where
  alike : a.Alike b
  left : a.HasHint
  right : b.HasHint

theorem Call.Paired.outcomes (paired : a.Paired b) (c c' : Catalog) : ∃ found found',
    (a.run c).1.result = .ok found ∧ (b.run c').1.result = .ok found' ∧
      Outcome c a.schema a.hints (.ok found) (a.run c).2 ∧
      Outcome c' b.schema b.hints (.ok found') (b.run c').2 := by
  obtain ⟨shallow, shallow'⟩ := Tree.heights_of_compare b.formed paired.alike.compare
  obtain ⟨found, succeeds⟩ := Call.succeeds c shallow paired.left
  obtain ⟨found', succeeds'⟩ := Call.succeeds c' shallow' paired.right
  have outcome := a.outcome c
  have outcome' := b.outcome c'
  rw [succeeds] at outcome
  rw [succeeds'] at outcome'
  exact ⟨found, found', succeeds, succeeds', outcome, outcome'⟩

theorem Parallel.step (parallel : Parallel c c') (paired : a.Paired b) :
    Parallel (a.run c).2 (b.run c').2 ∧
      ∃ place, a.Gets c place ∧ b.Gets c' place ∧ (place = none ↔ a.schema.isNull = true) := by
  obtain ⟨found, found', succeeds, succeeds', outcome, outcome'⟩ := paired.outcomes c c'
  have twins := paired.alike.twins
  have same_null := paired.alike.isNull_eq
  cases null : a.schema.isNull with
  | true =>
    obtain ⟨rfl, same⟩ := outcome.of_isNull null
    obtain ⟨rfl, same'⟩ := outcome'.of_isNull (same_null ▸ null)
    rw [same, same']
    exact ⟨parallel, none, succeeds, succeeds', by simp⟩
  | false =>
    obtain ⟨schemas, d, rfl, place_d⟩ := outcome.kept null
    obtain ⟨schemas', d', rfl, place_d'⟩ := outcome'.kept (same_null ▸ null)
    constructor
    · unfold Parallel
      rw [schemas, schemas']
      exact Tree.keep_congr parallel twins
    · rw [← Tree.place_congr parallel twins] at place_d'
      exact ⟨some _, ⟨d, succeeds, place_d⟩, ⟨d', succeeds', place_d'⟩, by simp⟩

theorem Parallel.knows_eq (parallel : Parallel c c') (alike : a.Alike b) :
    c.knows a.schema = c'.knows b.schema := by
  unfold knows
  rw [alike.isNull_eq, Tree.any_same_congr parallel alike.twins]

theorem Parallel.names_step (parallel : Parallel c c') (paired : a.Paired b)
    (same_hints : a.hints = b.hints) (names : c.names = c'.names) :
    (a.run c).2.names = (b.run c').2.names := by
  obtain ⟨_, _, _, _, outcome, outcome'⟩ := paired.outcomes c c'
  -- either both runs take a name or neither does
  have same_known := parallel.knows_eq paired.alike
  rcases outcome.names with ⟨known, kept⟩ | ⟨unknown, raw, proposed, new⟩
  · rcases outcome'.names with ⟨_, kept'⟩ | ⟨unknown', _⟩
    · rw [kept, kept', names]
    · simp [same_known, unknown'] at known
  · rcases outcome'.names with ⟨known', _⟩ | ⟨_, raw', proposed', new'⟩
    · simp [same_known, known'] at unknown
    · rw [same_hints, names, proposed'] at proposed
      cases proposed
      rw [new, new', names]

/-! ### Runs side by side -/

theorem paired_of_alike (alike : List.Forall₂ Call.Alike calls calls')
    (hinted : ∀ a ∈ calls, a.HasHint) (hinted' : ∀ b ∈ calls', b.HasHint) :
    List.Forall₂ Call.Paired calls calls' := by
  induction alike with
  | nil => exact .nil
  | @cons a b calls calls' first _ ih =>
    have rest := ih (fun x hx => hinted x (List.mem_cons_of_mem a hx))
      (fun y hy => hinted' y (List.mem_cons_of_mem b hy))
    exact .cons ⟨first, hinted a List.mem_cons_self, hinted' b List.mem_cons_self⟩ rest

theorem after_parallel (paired : List.Forall₂ Call.Paired calls calls') :
    Parallel (after calls) (after calls') := by
  apply List.rel_foldl (P := Parallel) _ empty_parallel paired
  intro c c' parallel a b pair
  exact (parallel.step pair).1

theorem after_names (paired : List.Forall₂ Call.Paired calls calls')
    (same_hints : List.Forall₂ (fun a b => a.hints = b.hints) calls calls') :
    (after calls).names = (after calls').names := by
  have both : List.Forall₂ (fun a b => a.Paired b ∧ a.hints = b.hints) calls calls' := by
    obtain ⟨lengths, pairs⟩ := List.forall₂_iff_zip.mp paired
    obtain ⟨_, hints⟩ := List.forall₂_iff_zip.mp same_hints
    exact List.forall₂_iff_zip.mpr ⟨lengths, fun h => ⟨pairs h, hints h⟩⟩
  have run :
      Parallel (after calls) (after calls') ∧ (after calls).names = (after calls').names := by
    apply List.rel_foldl (P := fun c c' => Parallel c c' ∧ c.names = c'.names) _
      ⟨empty_parallel, rfl⟩ both
    intro c c' related a b pair
    constructor
    · exact (related.1.step pair.1).1
    · exact related.1.names_step pair.1 pair.2 related.2
  exact run.2

/-- Calls for equal schemas, or for none, get definitions in the same places and as many of them,
whatever they propose as names. If they propose the same, all names are the same too. -/
theorem sharing_depends_on_schemas (calls calls' : List Call)
    (alike : List.Forall₂ Call.Alike calls calls') (hinted : ∀ a ∈ calls, a.HasHint)
    (hinted' : ∀ b ∈ calls', b.HasHint) :
    (∀ (i : Nat) (a b : Call), calls[i]? = some a → calls'[i]? = some b →
      ∃ place, a.Gets (after (calls.take i)) place ∧ b.Gets (after (calls'.take i)) place ∧
        (place = none ↔ a.schema.isNull = true)) ∧
    (after calls).definitions.length = (after calls').definitions.length ∧
    (List.Forall₂ (fun a b => a.hints = b.hints) calls calls' →
      (after calls).definitions.map (·.objectName) =
        (after calls').definitions.map (·.objectName) ∧
      (after calls).definitions.map (·.inputName) = (after calls').definitions.map (·.inputName) ∧
      (after calls).names.used = (after calls').names.used ∧
      (after calls).names.origins = (after calls').names.origins) := by
  have paired := paired_of_alike alike hinted hinted'
  refine ⟨?_, ?_, ?_⟩
  · intro i a b call_a call_b
    obtain ⟨hi, rfl⟩ := List.getElem?_eq_some_iff.mp call_a
    obtain ⟨hi', rfl⟩ := List.getElem?_eq_some_iff.mp call_b
    have before := after_parallel (List.forall₂_take i paired)
    exact (before.step (paired.get hi hi')).2
  · have lengths := (after_parallel paired).length_eq
    simpa [schemas] using lengths
  · intro same_hints
    have names := after_names paired same_hints
    have named := after_named calls
    have named' := after_named calls'
    refine ⟨?_, ?_, ?_, ?_⟩
    · rw [named.names, named'.names, names]
    · rw [named.inputNames, named'.inputNames, names]
    · rw [names]
    · rw [names]

end

/-- A run in which whole numbers are written as integers, and one with decimals and other names. The
schema of the last call is that of the first one, with the keys in another order. -/
def wholeRun : List Call :=
  [wholeNumbers, ⟨.null, some ⟨none, none, some "Root"⟩, rfl⟩,
    { unnamed with hints := some ⟨some "Pet", none, none⟩ },
    { decimals with hints := some ⟨none, some "Dog", none⟩ }]

def decimalRun : List Call :=
  [{ decimals with hints := some ⟨some "Zoo", none, none⟩ },
    ⟨.null, some ⟨none, none, some "Root"⟩, rfl⟩,
    { unnamed with hints := some ⟨none, none, some "Zoo"⟩ }, wholeNumbers]

theorem decimals_get_places_of_whole_numbers :
    List.Forall₂ Call.Alike wholeRun decimalRun ∧
    (after wholeRun).names.used = ["Pet", "Pet2"] ∧
    (after decimalRun).names.used = ["Zoo", "Zoo2"] ∧
    (after wholeRun).definitions.length = (after decimalRun).definitions.length := by
  have alike : List.Forall₂ Call.Alike wholeRun decimalRun :=
    .cons (.inr rfl) (.cons (.inl ⟨rfl, rfl⟩) (.cons (.inr rfl) (.cons (.inr rfl) .nil)))
  have hinted : ∀ a ∈ wholeRun, a.HasHint := by decide
  have hinted' : ∀ b ∈ decimalRun, b.HasHint := by decide
  exact ⟨alike, rfl, rfl, (sharing_depends_on_schemas wholeRun decimalRun alike hinted hinted').2.1⟩

end Catalog

end ApiOutline
