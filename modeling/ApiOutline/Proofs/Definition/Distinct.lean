import ApiOutline.Proofs.Definition.Sharing

/-! The definitions of a catalog without its history. The schemas that definitions were asked for
are kept in their order, save those that are equal to a kept one. Each definition belongs to one. -/
namespace ApiOutline

namespace Tree

def keep (kept : List Tree) (t : Tree) : List Tree :=
  if kept.any (t.same ·) then kept else kept ++ [t]

def distinct (ts : List Tree) : List Tree := ts.foldl keep []

/-- The place of the first kept schema that a schema is equal to. If there is none it is the place
that the schema gets when it is kept. -/
def place (kept : List Tree) (t : Tree) : Nat := kept.findIdx (t.same ·)

theorem prefix_keep (kept : List Tree) (t : Tree) : kept <+: keep kept t := by
  unfold keep
  split
  · exact List.prefix_rfl
  · exact List.prefix_append kept [t]

theorem distinct_append (ts us : List Tree) : distinct (ts ++ us) = us.foldl keep (distinct ts) :=
  List.foldl_append

theorem distinct_mono {ts us : List Tree} (more : ts <+: us) : distinct ts <+: distinct us := by
  obtain ⟨later, rfl⟩ := more
  rw [distinct_append]
  exact List.foldlRecOn later keep List.prefix_rfl fun kept before t _ =>
    before.trans (prefix_keep kept t)

theorem distinct_subset (ts : List Tree) : distinct ts ⊆ ts := by
  induction ts using List.reverseRecOn with
  | nil => exact List.Subset.refl _
  | append_singleton ts t ih =>
    rw [distinct_append]
    show keep (distinct ts) t ⊆ ts ++ [t]
    unfold keep
    split
    · exact List.subset_append_of_subset_left [t] ih
    · exact List.append_subset.mpr ⟨List.subset_append_of_subset_left [t] ih, by simp⟩

section

variable {kept kept' earlier later : List Tree} {t : Tree}

theorem place_of_inside (more : kept <+: kept') (inside : place kept t < kept.length) :
    place kept' t = place kept t := by
  obtain ⟨added, rfl⟩ := more
  rw [place, List.findIdx_append]
  exact if_pos inside

theorem place_keep (kept : List Tree) (self : t.same t = true) :
    place (keep kept t) t = place kept t ∧ place (keep kept t) t < (keep kept t).length := by
  unfold keep
  split
  · rename_i hit
    exact ⟨rfl, List.findIdx_lt_length.mpr (List.any_eq_true.mp hit)⟩
  · rename_i miss
    have last : place kept t = kept.length := by
      refine List.findIdx_eq_length.mpr fun u hu => Bool.eq_false_iff.mpr fun equal => miss ?_
      exact List.any_eq_true.mpr ⟨u, hu, equal⟩
    have added : place (kept ++ [t]) t = kept.length := by
      rw [place, List.findIdx_append, ← place, last, if_neg (Nat.lt_irrefl _), List.findIdx_cons,
        self, cond_true, Nat.zero_add]
    exact ⟨added.trans last.symm, by simp [added]⟩

theorem place_of_hasNaN (nan : t.hasNaN = true) (kept : List Tree) :
    place kept t = kept.length ∧ keep kept t = kept ++ [t] := by
  have differs : ∀ u ∈ kept, t.same u = false := fun u _ => Bool.eq_false_iff.mpr fun equal =>
    Bool.false_ne_true ((hasNaN_of_same equal).symm.trans nan)
  refine ⟨List.findIdx_eq_length.mpr differs, if_neg fun hit => ?_⟩
  obtain ⟨u, hu, equal⟩ := List.any_eq_true.mp hit
  exact Bool.false_ne_true ((differs u hu).symm.trans equal)

/-- Once a schema was kept it has one place exactly if all numbers in it are numbers. -/
theorem place_eq_iff (formed : t.wellFormed = true) (more : earlier ++ [t] <+: later) :
    place (distinct earlier) t = place (distinct later) t ↔ t.hasNaN = false := by
  have kept := distinct_mono more
  rw [distinct_append, List.foldl_cons, List.foldl_nil] at kept
  constructor
  · intro same
    refine Bool.eq_false_iff.mpr fun nan => ?_
    obtain ⟨first, again⟩ := place_of_hasNaN nan (distinct earlier)
    obtain ⟨last, _⟩ := place_of_hasNaN nan (distinct later)
    have length := kept.length_le
    rw [again, List.length_append, List.length_singleton] at length
    omega
  · intro numbers
    obtain ⟨stays, inside⟩ := place_keep (distinct earlier) (same_self formed numbers)
    rw [place_of_inside kept inside, stays]

end

end Tree

namespace Catalog

open ApiOutline.Tree (keep distinct place)

variable {c c' : Catalog} {t : Tree} {hints : Option Hints} {schema : Option Tree}
  {earlier : List Tree} {answer : Option Definition}

def schemas (c : Catalog) : List Tree := c.definitions.map (·.schema)

/-- The definition that a schema got, if definitions were asked for some schemas before it. Where
there is no schema there is no definition. -/
inductive Assigned (c : Catalog) (earlier : List Tree) :
    Option Tree → Option Definition → Prop where
  | absent : Assigned c earlier none none
  | present {t : Tree} {d : Definition} : c.definitions[place (distinct earlier) t]? = some d →
      Assigned c earlier (some t) (some d)

theorem Assigned.extend (assigned : Assigned c earlier schema answer)
    (more : c.definitions <+: c'.definitions) : Assigned c' earlier schema answer := by
  cases assigned with
  | absent => exact .absent
  | present found =>
    obtain ⟨added, whole⟩ := more
    have inside := (List.getElem?_eq_some_iff.mp found).1
    exact .present (by rw [← whole, List.getElem?_append_left inside, found])

theorem Assigned.eq_none (assigned : Assigned c earlier schema none) : schema = none := by
  cases assigned
  rfl

theorem Assigned.mem {d : Definition} (assigned : Assigned c earlier schema (some d)) :
    d ∈ c.definitions := by
  cases assigned with
  | present found => exact List.mem_of_getElem? found

theorem place_schemas (c : Catalog) (t : Tree) :
    c.definitions[place c.schemas t]? = c.definitions.find? fun d => t.same d.schema := by
  rw [place, schemas, List.findIdx_map, List.find?_eq_getElem?_findIdx]
  rfl

theorem place_of_new (first : (c.definitions.find? fun d => t.same d.schema) = none) :
    place c.schemas t = c.definitions.length := by
  have none_equal := List.find?_eq_none.mp first
  rw [place, schemas, List.findIdx_map, List.findIdx_eq_length]
  simpa using none_equal

variable [Machine]

/-- A successful assignment keeps the schema, and its answer is the definition in the place of the
schema. -/
theorem Outcome.kept (outcome : Outcome c t hints (.ok answer) c') (given : t.isNull = false) :
    c'.schemas = keep c.schemas t ∧ ∃ d, answer = some d ∧
      c'.definitions[place c.schemas t]? = some d := by
  cases outcome with
  | absent null => exact absurd null (Bool.eq_false_iff.mp given)
  | @reused d _ first =>
    refine ⟨?_, d, rfl, by rw [place_schemas, first]⟩
    have equal : t.same d.schema = true := by simpa using List.find?_some first
    have hit : c.schemas.any (t.same ·) = true := List.any_eq_true.mpr
      ⟨d.schema, List.mem_map_of_mem (List.mem_of_find?_eq_some first), equal⟩
    rw [keep, if_pos hit]
  | @created raw _ _ first =>
    refine ⟨?_, c.newcomer t raw, rfl, ?_⟩
    · have miss : c.schemas.any (t.same ·) = false := by
        simpa [schemas] using List.find?_eq_none.mp first
      rw [keep, miss, if_neg Bool.false_ne_true]
      exact List.map_append
    · simp [place_of_new first, extended]

theorem Outcome.isNone_eq (outcome : Outcome c (schema.getD .null) hints (.ok answer) c')
    (given : ∀ t, schema = some t → t.isNull = false) : answer.isNone = schema.isNone := by
  cases schema with
  | none =>
    cases outcome with
    | absent => rfl
    | reused given => cases given
    | created given => cases given
  | some t =>
    obtain ⟨_, d, rfl, _⟩ := outcome.kept (given t rfl)
    rfl

theorem Outcome.assigned (outcome : Outcome c (schema.getD .null) hints (.ok answer) c')
    (given : ∀ t, schema = some t → t.isNull = false) (kept : c.schemas = distinct earlier) :
    c'.schemas = distinct (earlier ++ schema.toList) ∧ Assigned c' earlier schema answer := by
  cases schema with
  | none =>
    cases outcome with
    | absent => exact ⟨by simpa using kept, .absent⟩
    | reused given => cases given
    | created given => cases given
  | some t =>
    obtain ⟨schemas, d, rfl, found⟩ := outcome.kept (given t rfl)
    rw [kept] at schemas found
    exact ⟨schemas.trans (Tree.distinct_append earlier [t]).symm, .present found⟩

end Catalog

end ApiOutline
