import ApiOutline.Proofs.Entries
import ApiOutline.Proofs.Tree.Shape

/-! Objects that entries are put into. A new value counts under its key, and all other keys keep
theirs. -/
namespace ApiOutline

theorem Scalar.identity_eq_text {k : Scalar} {s : String} : k.identity = .text s ↔ k = .text s :=
  ⟨eq_text_of_identity, fun h => h ▸ rfl⟩

namespace Object

variable {o : Object} {k n : Scalar} {v : Tree}

/-- No two keys of an object are one. -/
def Distinct (o : Object) : Prop := (o.map (·.1.identity)).Nodup

theorem get?_cons (e : Scalar × Tree) (o : Object) (n : Scalar) :
    get? (e :: o) n = if e.1.identity = n.identity then some e.2 else get? o n := by
  by_cases hit : e.1.identity = n.identity <;> simp [get?, hit]

theorem get?_eq_none : o.get? n = none ↔ n.identity ∉ o.map (·.1.identity) := by
  simp [get?]

theorem get?_insert :
    get? (insert o k v) n = if k.identity = n.identity then some v else get? o n := by
  induction o with
  | nil => exact get?_cons (k, v) [] n
  | cons e o ih =>
    simp only [insert] at ih
    by_cases hit : e.1.identity = k.identity
    · simp only [insert, Entries.upsert, hit, BEq.rfl, if_true, get?_cons]
      split <;> rfl
    · simp only [insert, Entries.upsert, beq_iff_eq, hit, if_false, get?_cons, ih]
      by_cases first : e.1.identity = n.identity
      · have other : k.identity ≠ n.identity := fun same => hit (first.trans same.symm)
        rw [if_pos first, if_pos first, if_neg other]
      · rw [if_neg first, if_neg first]

theorem mem_of_mem_insert {e : Scalar × Tree} (h : e ∈ insert o k v) :
    e.1.identity = k.identity ∧ e.2 = v ∨ e ∈ o := by
  induction o with
  | nil =>
    rw [List.mem_singleton.mp h]
    exact .inl ⟨rfl, rfl⟩
  | cons f o ih =>
    by_cases hit : f.1.identity = k.identity
    · simp only [insert, Entries.upsert, hit, BEq.rfl, if_true, List.mem_cons] at h
      rcases h with rfl | later
      · exact .inl ⟨hit, rfl⟩
      · exact .inr (List.mem_cons_of_mem f later)
    · simp only [insert, Entries.upsert, beq_iff_eq, hit, if_false, List.mem_cons] at h
      rcases h with rfl | later
      · exact .inr List.mem_cons_self
      · exact (ih later).imp_right (List.mem_cons_of_mem f)

theorem Distinct.insert (distinct : o.Distinct) : (Object.insert o k v).Distinct :=
  Entries.nodup_upsert distinct

theorem get?_filter {p : Scalar → Bool} (respects : ∀ a : Scalar, a.identity = n.identity →
      p a = p n) : get? (o.filter fun e => p e.1) n = if p n then get? o n else none := by
  induction o with
  | nil => simp [get?]
  | cons e o ih =>
    by_cases hit : e.1.identity = n.identity
    -- An entry with the key that is looked up is kept exactly if the key is.
    · have same := respects e.1 hit
      cases kept : p n with
      | true =>
        have keeps : p e.1 = true := same.trans kept
        simp only [List.filter_cons, keeps, if_true, get?_cons, hit]
      | false =>
        have drops : p e.1 = false := same.trans kept
        simp only [List.filter_cons, drops, Bool.false_eq_true, if_false, ih, kept]
    · have skips (rest : Object) : get? (e :: rest) n = get? rest n := by
        rw [get?_cons, if_neg hit]
      rw [List.filter_cons]
      split
      · rw [skips, skips, ih]
      · rw [skips, ih]

section Rows

variable {more : Object}

theorem Distinct.foldl_insert (distinct : o.Distinct) :
    (more.foldl (fun o e => Object.insert o e.1 e.2) o).Distinct := by
  induction more generalizing o with
  | nil => exact distinct
  | cons e more ih => exact ih distinct.insert

/-- Entries that are put in one after the other count where they have a key. -/
theorem get?_foldl_insert (distinct : more.Distinct) (n : Scalar) :
    get? (more.foldl (fun o e => insert o e.1 e.2) o) n = (get? more n).or (get? o n) := by
  induction more generalizing o with
  | nil => rfl
  | cons e more ih =>
    obtain ⟨first, rest⟩ := List.nodup_cons.mp distinct
    rw [List.foldl_cons, ih rest, get?_insert, get?_cons]
    by_cases hit : e.1.identity = n.identity
    · have absent : get? more n = none := get?_eq_none.mpr (hit ▸ first)
      rw [absent, if_pos hit, if_pos hit]
      rfl
    · rw [if_neg hit, if_neg hit]

end Rows

end Object

end ApiOutline
