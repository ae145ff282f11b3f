import Mathlib.Data.List.Dedup
import ApiOutline.Proofs.Outline.Accounting
import ApiOutline.Proofs.Outline.Summary

/-! The order of an outline's operations. A replaced operation leaves its place to the one that
replaces it, so ids are in the order in which a document first claims them. This is the order of the
operations that stay if the document claims its ids for the last time in that order as well. -/
namespace ApiOutline

namespace Declared

variable {vs : List Declared} {v w : Declared} {id a b : String} {i j : Nat}

def id? [Machine] (v : Declared) : Option String :=
  if v.isLeftOut then none else (Operation.identify v.site v.endpoint).toOption

theorem id?_eq_some [Machine] : v.id? = some id ↔ v.Claims id := by
  rw [id?, isLeftOut, Claims, ← Option.not_isNone]
  cases v.site.responseSchema.isNone <;> cases Operation.identify v.site v.endpoint <;>
    simp [Except.toOption]

theorem id?_of_isLeftOut [Machine] (left : v.isLeftOut = true) : v.id? = none := if_pos left

def ids [Machine] (vs : List Declared) : List String := vs.filterMap id?

theorem ids_cons [Machine] (v : Declared) (vs : List Declared) :
    ids (v :: vs) = v.id?.toList ++ ids vs := by
  unfold ids
  cases claimed : v.id? with
  | none => exact List.filterMap_cons_none claimed
  | some a => exact List.filterMap_cons_some claimed

theorem ids_snoc [Machine] (vs : List Declared) (v : Declared) :
    ids (vs ++ [v]) = ids vs ++ v.id?.toList := by
  rw [ids, List.filterMap_append, ← ids, ← ids, ids_cons]
  exact congrArg _ (List.append_nil _)

theorem mem_ids [Machine] : id ∈ ids vs ↔ ∃ v ∈ vs, v.Claims id := by
  simp only [ids, List.mem_filterMap, id?_eq_some]

structure LastAt [Machine] (vs : List Declared) (id : String) (i : Nat) : Prop where
  claims : ∃ v, vs[i]? = some v ∧ v.Claims id
  last : ∀ w ∈ vs.drop (i + 1), ¬ w.Claims id

namespace LastAt

variable [Machine]

theorem iff_ids : LastAt vs id i ↔ vs[i]?.bind id? = some id ∧ id ∉ ids (vs.drop (i + 1)) := by
  simp only [Option.bind_eq_some_iff, id?_eq_some, mem_ids, not_exists, not_and]
  exact ⟨fun found => ⟨found.claims, found.last⟩, fun found => ⟨found.1, found.2⟩⟩

theorem cons (later : LastAt vs id i) (v : Declared) : LastAt (v :: vs) id (i + 1) :=
  ⟨later.claims, later.last⟩

theorem exists_of_mem (claimed : id ∈ ids vs) : ∃ i, LastAt vs id i := by
  induction vs with
  | nil => cases claimed
  | cons v vs ih =>
    by_cases again : id ∈ ids vs
    · obtain ⟨i, later⟩ := ih again
      exact ⟨i + 1, later.cons v⟩
    · obtain ⟨u, member, claims⟩ := mem_ids.mp claimed
      rcases List.mem_cons.mp member with rfl | member
      · exact ⟨0, ⟨u, rfl, claims⟩, fun w hw claims' => again (mem_ids.mpr ⟨w, hw, claims'⟩)⟩
      · exact absurd (mem_ids.mpr ⟨u, member, claims⟩) again

theorem not_lt (first : LastAt vs id i) (second : LastAt vs id j) : ¬ i < j := by
  intro before
  obtain ⟨v, found, claims⟩ := second.claims
  refine first.last v (List.mem_of_getElem? (i := j - (i + 1)) ?_) claims
  rw [List.getElem?_drop, Nat.add_sub_cancel' before, found]

theorem unique (first : LastAt vs id i) (second : LastAt vs id j) : i = j :=
  Nat.le_antisymm (Nat.le_of_not_lt (second.not_lt first)) (Nat.le_of_not_lt (first.not_lt second))

end LastAt

def EndsBefore [Machine] (vs : List Declared) (a b : String) : Prop :=
  ∃ i j, LastAt vs a i ∧ LastAt vs b j ∧ i < j

theorem EndsBefore.cons [Machine] (before : EndsBefore vs a b) (v : Declared) :
    EndsBefore (v :: vs) a b := by
  obtain ⟨i, j, first, second, less⟩ := before
  exact ⟨i + 1, j + 1, first.cons v, second.cons v, Nat.succ_lt_succ less⟩

theorem EndsBefore.asymm [Machine] (before : EndsBefore vs a b) : ¬ EndsBefore vs b a := by
  rintro ⟨j', i', second', first', less'⟩
  obtain ⟨i, j, first, second, less⟩ := before
  cases first.unique first'
  cases second.unique second'
  exact Nat.lt_asymm less less'

/-- Without all but the last of its repetitions a list of ids is in the order of the last claims. -/
theorem pairwise_dedup_ids [Machine] (vs : List Declared) :
    (ids vs).dedup.Pairwise (EndsBefore vs) := by
  induction vs with
  | nil => exact List.Pairwise.nil
  | cons v vs ih =>
    have kept := ih.imp fun before => before.cons v
    rw [ids_cons]
    cases claimed : v.id? with
    | none => exact kept
    | some a =>
      rw [Option.toList_some, List.singleton_append]
      by_cases again : a ∈ ids vs
      · rw [List.dedup_cons_of_mem again]
        exact kept
      · rw [List.dedup_cons_of_notMem again]
        refine List.Pairwise.cons (fun b member => ?_) kept
        obtain ⟨j, later⟩ := LastAt.exists_of_mem (List.mem_dedup.mp member)
        have now : LastAt (v :: vs) a 0 :=
          ⟨⟨v, rfl, id?_eq_some.mp claimed⟩, fun w hw claims => again (mem_ids.mpr ⟨w, hw, claims⟩)⟩
        exact ⟨0, j + 1, now, later.cons v, Nat.succ_pos j⟩

theorem pairwise_endsBefore_iff [Machine] {names : List String} (distinct : names.Nodup)
    (same : ∀ id, id ∈ names ↔ id ∈ ids vs) :
    names.Pairwise (EndsBefore vs) ↔ names = (ids vs).dedup := by
  constructor
  · intro ordered
    have permuted : names.Perm (ids vs).dedup :=
      (List.perm_ext_iff_of_nodup distinct (List.nodup_dedup _)).mpr fun id => by
        rw [same, List.mem_dedup]
    refine permuted.eq_of_pairwise (fun a b _ _ before after => ?_) ordered (pairwise_dedup_ids vs)
    exact absurd after before.asymm
  · rintro rfl
    exact pairwise_dedup_ids vs

end Declared

namespace Outline

variable {document : Object} {options : Options} {o : Outline} {p : Progress}
  {e f : String × Operation} {i j : Nat}

/-! ### Ids -/

section

variable [Machine]

theorem keys_of_visit {notes : List Note}
    (run : visit Catalog.assign document options = ⟨notes, .ok p⟩) :
    Entries.keys p.operations = (Declared.ids (Declared.ofDocument document)).eraseDups := by
  rw [visit_eq (congrArg Logged.result run)] at run
  refine Logged.foldlM_trace (P := fun vs _ p => Entries.keys p.operations =
    (Declared.ids vs).eraseDups) rfl (fun past _ p v _ p' _ earlier step => ?_) run
  rw [Declared.ids_snoc]
  cases visited_of_visit step with
  | leftOut left _ =>
    rw [Declared.id?_of_isLeftOut left, Option.toList_none, List.append_nil]
    exact earlier
  | stored claims _ _ =>
    rw [Declared.id?_eq_some.mpr claims, Option.toList_some]
    exact Entries.keys_insert_eq_eraseDups earlier

theorem keys_operations (succeeds : (ofDocument document options).result = .ok o) :
    Entries.keys o.operations = (Declared.ids (Declared.ofDocument document)).eraseDups := by
  obtain ⟨p, visited, _, keys, _⟩ := mem_operations succeeds
  exact keys.trans (keys_of_visit (Logged.eq_mk_of_result visited))

/-! ### Positions -/

/-- Whether an entry is the operation that is built for the declaration at a position, the last one
with its id. -/
def BuiltAt (document : Object) (options : Options) (e : String × Operation) (i : Nat) : Prop :=
  ∃ v, (Declared.ofDocument document)[i]? = some v ∧
    Bound options v ((Declared.ofDocument document).drop (i + 1)) e

/-- Whether the declaration of an entry comes before the one of another entry. -/
def Precedes (document : Object) (options : Options) (e f : String × Operation) : Prop :=
  ∃ i j, BuiltAt document options e i ∧ BuiltAt document options f j ∧ i < j

theorem BuiltAt.lastAt (built : BuiltAt document options e i) :
    Declared.LastAt (Declared.ofDocument document) e.1 i := by
  obtain ⟨v, found, bound⟩ := built
  exact ⟨⟨v, found, bound.claims⟩, bound.last⟩

theorem exists_builtAt (succeeds : (ofDocument document options).result = .ok o)
    (he : e ∈ o.operations) : ∃ i, BuiltAt document options e i := by
  obtain ⟨past, v, future, split, bound⟩ := bound_of_mem (Logged.eq_mk_of_result succeeds) e he
  refine ⟨past.length, v, ?_, ?_⟩
  · rw [split, List.getElem?_append_right le_rfl, Nat.sub_self, List.getElem?_cons_zero]
  · rw [split, List.drop_length_add_append, List.drop_one, List.tail_cons]
    exact bound

theorem builtAt_iff (succeeds : (ofDocument document options).result = .ok o)
    (he : e ∈ o.operations) :
    BuiltAt document options e i ↔ Declared.LastAt (Declared.ofDocument document) e.1 i := by
  constructor
  · exact BuiltAt.lastAt
  · intro last
    obtain ⟨j, built⟩ := exists_builtAt succeeds he
    exact last.unique built.lastAt ▸ built

theorem exists_builtAt_iff {v : Declared} {id : String}
    (succeeds : (ofDocument document options).result = .ok o)
    (found : (Declared.ofDocument document)[i]? = some v) (identified : v.id? = some id) :
    (∃ e ∈ o.operations, BuiltAt document options e i) ↔
      ∀ w ∈ (Declared.ofDocument document).drop (i + 1), w.id? ≠ some id := by
  have claims := Declared.id?_eq_some.mp identified
  constructor
  · rintro ⟨e, _, u, found', bound⟩ w later again
    cases found.symm.trans found'
    cases (bound.claims_iff id).mp claims
    exact bound.last w later (Declared.id?_eq_some.mp again)
  · intro alone
    have inside : id ∈ Entries.keys o.operations := by
      rw [keys_operations succeeds, List.mem_eraseDups, Declared.mem_ids]
      exact ⟨v, List.mem_of_getElem? found, claims⟩
    obtain ⟨e, he, rfl⟩ := List.mem_map.mp inside
    refine ⟨e, he, (builtAt_iff succeeds he).mpr ⟨⟨v, found, claims⟩, fun w later claims' => ?_⟩⟩
    exact alone w later (Declared.id?_eq_some.mpr claims')

theorem precedes_iff (succeeds : (ofDocument document options).result = .ok o)
    (he : e ∈ o.operations) (hf : f ∈ o.operations) : Precedes document options e f ↔
      Declared.EndsBefore (Declared.ofDocument document) e.1 f.1 := by
  simp only [Precedes, Declared.EndsBefore, builtAt_iff succeeds he, builtAt_iff succeeds hf]

/-- The ids of an outline are in the order in which its document first claims them. Every operation
is built for just one declaration, the last one with its id. The operations are in the order of
these declarations if and only if the document claims its ids for the first time in the same order
as for the last time. -/
theorem operations_ordered_iff (document : Object) (options : Options) (o : Outline)
    (succeeds : (ofDocument document options).result = .ok o) :
    Entries.keys o.operations = (Declared.ids (Declared.ofDocument document)).eraseDups ∧
    (∀ e ∈ o.operations, ∃! i, BuiltAt document options e i) ∧
    (o.operations.Pairwise (Precedes document options) ↔
      (Declared.ids (Declared.ofDocument document)).eraseDups =
        (Declared.ids (Declared.ofDocument document)).dedup) := by
  have keys := keys_operations succeeds
  refine ⟨keys, fun e he => ?_, ?_⟩
  · obtain ⟨i, built⟩ := exists_builtAt succeeds he
    exact ⟨i, built, fun j built' => built'.lastAt.unique built.lastAt⟩
  · rw [← keys]
    have distinct := nodup_keys_operations succeeds
    refine Iff.trans ?_ (Declared.pairwise_endsBefore_iff distinct fun id => ?_)
    · rw [Entries.keys, List.pairwise_map]
      exact List.Pairwise.iff_of_mem fun he hf => precedes_iff succeeds he hf
    · rw [keys, List.mem_eraseDups]

end

theorem club_ordered : ∃ o, (ofDocument club Options.usual).result = .ok o ∧
    Entries.keys o.operations = ["user", "change", "friends"] ∧
    o.operations.Pairwise (Precedes club Options.usual) := by
  obtain ⟨o, succeeds, _⟩ := Except.exists_of_any
    (x := (ofDocument club Options.usual).result) (p := fun _ => true) (by decide +kernel)
  obtain ⟨keys, _, ordered_iff⟩ := operations_ordered_iff club Options.usual o succeeds
  refine ⟨o, succeeds, keys.trans (by decide +kernel), ordered_iff.mpr (by decide +kernel)⟩

def carousel : Object :=
  let ride (id : String) := Tree.record [("get", .record [("operationId", .text id),
    ("responses", answer (.record [("title", .text "Ride")]))])]
  [(.text "paths", .record [("/rides", ride "ride"), ("/tickets", ride "ticket"),
    ("/trips", ride "ride")])]

/-- The operation that is declared last stands first, in the place of the one that it replaces. -/
theorem carousel_turns : ∃ o ride ticket,
    (ofDocument carousel Options.usual).result = .ok o ∧ o.operations = [ride, ticket] ∧
    BuiltAt carousel Options.usual ride 2 ∧ BuiltAt carousel Options.usual ticket 1 := by
  obtain ⟨o, succeeds, found⟩ := Except.exists_of_any
    (x := (ofDocument carousel Options.usual).result)
    (p := fun o => Entries.keys o.operations == ["ride", "ticket"]) (by decide +kernel)
  obtain ⟨ride, ops, operations, first, rest⟩ := List.map_eq_cons_iff.mp (eq_of_beq found)
  obtain ⟨ticket, ops, rfl, second, rest⟩ := List.map_eq_cons_iff.mp rest
  cases List.map_eq_nil_iff.mp rest
  refine ⟨o, ride, ticket, succeeds, operations, ?_, ?_⟩
  · rw [builtAt_iff succeeds (by simp [operations]), first, Declared.LastAt.iff_ids]
    decide +kernel
  · rw [builtAt_iff succeeds (by simp [operations]), second, Declared.LastAt.iff_ids]
    decide +kernel

end Outline

end ApiOutline
