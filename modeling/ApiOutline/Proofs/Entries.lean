import Mathlib.Data.List.Induction
import Mathlib.Data.List.Nodup
import ApiOutline.Entries

/-! Lists of keys with values, seen as maps. -/
namespace ApiOutline.Entries

theorem keys_mapValues {κ α β : Type} (f : α → β) (es : List (κ × α)) :
    keys (mapValues f es) = keys es := by
  simp [keys, mapValues]

variable {κ α : Type} [BEq κ]

theorem mapValues_insert {β : Type} (f : α → β) (k : κ) (v : α) (es : List (κ × α)) :
    mapValues f (insert k v es) = insert k (f v) (mapValues f es) := by
  induction es with
  | nil => rfl
  | cons e es ih =>
    simp only [insert, mapValues] at ih
    simp only [insert, mapValues, upsert, List.map_cons]
    split
    · rfl
    · rw [List.map_cons, ih]

theorem map_upsert {ι : Type} (f : ι → κ) (k : ι) (v : α) (es : List (ι × α)) :
    (upsert (f · == f k) k v es).map (fun e => (f e.1, e.2)) =
      insert (f k) v (es.map fun e => (f e.1, e.2)) := by
  induction es with
  | nil => rfl
  | cons e es ih =>
    simp only [insert] at ih
    simp only [insert, upsert, List.map_cons]
    split
    · rfl
    · rw [List.map_cons, ih]

theorem get?_of_prefix {k : κ} {v : α} {es es' : List (κ × α)} (more : es <+: es')
    (found : get? k es = some v) : get? k es' = some v := by
  obtain ⟨e, hit, rfl⟩ := Option.map_eq_some_iff.mp found
  obtain ⟨added, rfl⟩ := more
  rw [get?, List.find?_append, hit]
  rfl

variable [LawfulBEq κ]

theorem insert_of_not_mem {k : κ} {v : α} {es : List (κ × α)} (absent : k ∉ keys es) :
    insert k v es = es ++ [(k, v)] := by
  induction es with
  | nil => rfl
  | cons e es ih =>
    have other : e.1 ≠ k := fun h => absent (by simp [keys, h])
    have rest : k ∉ keys es := fun h => absent (List.mem_cons_of_mem _ h)
    have := ih rest
    simp only [insert] at this
    simp [insert, upsert, other, this]

theorem keys_insert_of_mem {k : κ} {v : α} {es : List (κ × α)} (present : k ∈ keys es) :
    keys (insert k v es) = keys es := by
  induction es with
  | nil => cases present
  | cons e es ih =>
    by_cases hit : e.1 = k
    · simp [insert, upsert, keys, hit]
    · have later := ih ((List.mem_cons.mp present).resolve_left (Ne.symm hit))
      simpa [insert, upsert, keys, hit] using later

theorem keys_insert_eq_eraseDups {k : κ} {v : α} {es : List (κ × α)} {given : List κ}
    (earlier : keys es = given.eraseDups) :
    keys (insert k v es) = (given ++ [k]).eraseDups := by
  have same : k ∈ keys es ↔ k ∈ given := by rw [earlier, List.mem_eraseDups]
  rw [List.eraseDups_append, ← earlier]
  by_cases present : k ∈ keys es
  · simp [keys_insert_of_mem present, List.removeAll, same.mp present]
  · simp [insert_of_not_mem present, keys, List.removeAll, mt same.mpr present,
      List.eraseDups_cons]

theorem mem_of_get? {k : κ} {v : α} {es : List (κ × α)} (h : get? k es = some v) : (k, v) ∈ es := by
  obtain ⟨e, he, rfl⟩ := Option.map_eq_some_iff.mp h
  have key : e.1 = k := by simpa using List.find?_some he
  exact key ▸ List.mem_of_find?_eq_some he

theorem mem_keys_insert {k n : κ} {v : α} {es : List (κ × α)} :
    n ∈ keys (insert k v es) ↔ n = k ∨ n ∈ keys es := by
  induction es with
  | nil => simp [insert, upsert, keys]
  | cons e es ih =>
    simp only [insert, keys] at ih
    by_cases hit : e.1 = k
    · simp [insert, upsert, keys, hit]
    · simp only [insert, upsert, keys, beq_iff_eq, hit, if_false, List.map_cons, List.mem_cons, ih]
      exact or_left_comm

theorem isSome_get? {k : κ} {es : List (κ × α)} : (get? k es).isSome = true ↔ k ∈ keys es := by
  simp [get?, keys, List.find?_isSome]

theorem get?_of_mem {e : κ × α} {es : List (κ × α)} (distinct : (keys es).Nodup) (he : e ∈ es) :
    get? e.1 es = some e.2 := by
  obtain ⟨v, found⟩ := Option.isSome_iff_exists.mp (isSome_get?.mpr (List.mem_map_of_mem he))
  have same := List.inj_on_of_nodup_map distinct (mem_of_get? found) he rfl
  rw [found, ← same]

theorem get?_insert {k n : κ} {v : α} {es : List (κ × α)} :
    get? n (insert k v es) = if k == n then some v else get? n es := by
  have get?_cons (e : κ × α) (es : List (κ × α)) :
      get? n (e :: es) = if e.1 == n then some e.2 else get? n es := by
    cases hit : e.1 == n <;> simp only [get?, List.find?_cons, hit] <;> rfl
  induction es with
  | nil => exact get?_cons (k, v) []
  | cons e es ih =>
    by_cases hit : e.1 = k
    · subst hit
      simp only [insert, upsert, BEq.rfl, if_true, get?_cons]
      split <;> rfl
    · simp only [insert] at ih
      simp only [insert, upsert, beq_iff_eq, hit, if_false, get?_cons, ih]
      cases first : e.1 == n with
      | false => rfl
      | true =>
        have other : (k == n) = false := beq_eq_false_iff_ne.mpr fun same =>
          hit ((eq_of_beq first).trans same.symm)
        rw [other]
        rfl

/-- Of the values that are given to one key the last one stays. -/
theorem get?_foldl_insert (f : α → κ) (l : List α) (n : κ) :
    get? n (l.foldl (fun es a => insert (f a) a es) []) = (l.filter (f · == n)).getLast? := by
  induction l using List.reverseRecOn with
  | nil => rfl
  | append_singleton l a ih =>
    rw [List.foldl_append, List.foldl_cons, List.foldl_nil, get?_insert, ih, List.filter_append]
    cases hit : f a == n <;> simp [hit]

theorem length_insert {k : κ} {v : α} {es : List (κ × α)} :
    (insert k v es).length = es.length + if (get? k es).isSome then 0 else 1 := by
  by_cases present : k ∈ keys es
  · rw [if_pos (isSome_get?.mpr present)]
    simpa [keys] using congrArg List.length (keys_insert_of_mem (v := v) present)
  · rw [if_neg (mt isSome_get?.mp present), insert_of_not_mem present]
    simp

theorem nodup_keys_insert {k : κ} {v : α} {es : List (κ × α)} (distinct : (keys es).Nodup) :
    (keys (insert k v es)).Nodup := by
  by_cases present : k ∈ keys es
  · rw [keys_insert_of_mem present]
    exact distinct
  · rw [insert_of_not_mem present]
    simp only [keys, List.map_append, List.map_cons, List.map_nil]
    refine List.nodup_append.mpr ⟨distinct, List.pairwise_singleton _ _, fun n hn m hm same => ?_⟩
    exact present (List.mem_singleton.mp hm ▸ same ▸ hn)

theorem nodup_upsert {ι : Type} {f : ι → κ} {k : ι} {v : α} {es : List (ι × α)}
    (distinct : (es.map (f ·.1)).Nodup) :
    ((upsert (f · == f k) k v es).map (f ·.1)).Nodup := by
  have seen (es : List (ι × α)) : es.map (f ·.1) = keys (es.map fun e => (f e.1, e.2)) := by
    simp [keys]
  rw [seen] at distinct ⊢
  rw [map_upsert]
  exact nodup_keys_insert distinct

theorem mem_of_mem_insert {k : κ} {v : α} {es : List (κ × α)} {e : κ × α}
    (h : e ∈ insert k v es) : e = (k, v) ∨ e ∈ es := by
  induction es with
  | nil => exact .inl (List.mem_singleton.mp h)
  | cons f es ih =>
    by_cases hit : f.1 = k
    · simp only [insert, upsert, hit, BEq.rfl, if_true, List.mem_cons] at h
      exact h.imp_right (List.mem_cons_of_mem f)
    · simp only [insert, upsert, beq_iff_eq, hit, if_false, List.mem_cons] at h
      rcases h with rfl | later
      · exact .inr List.mem_cons_self
      · exact (ih later).imp_right (List.mem_cons_of_mem f)

theorem mem_insert {k : κ} {v : α} {es : List (κ × α)} (distinct : (keys es).Nodup) {e : κ × α}
    (h : e ∈ insert k v es) : e = (k, v) ∨ e ∈ es ∧ e.1 ≠ k := by
  induction es with
  | nil => exact .inl (List.mem_singleton.mp h)
  | cons f es ih =>
    obtain ⟨first, rest⟩ := List.nodup_cons.mp distinct
    by_cases hit : f.1 = k
    · simp only [insert, upsert, hit, BEq.rfl, if_true, List.mem_cons] at h
      rcases h with new | old
      · exact .inl new
      · refine .inr ⟨List.mem_cons_of_mem _ old, fun same => first ?_⟩
        exact List.mem_map.mpr ⟨e, old, same.trans hit.symm⟩
    · simp only [insert, upsert, beq_iff_eq, hit, if_false, List.mem_cons] at h
      rcases h with rfl | later
      · exact .inr ⟨List.mem_cons_self, hit⟩
      · exact (ih rest later).imp_right fun old => ⟨List.mem_cons_of_mem _ old.1, old.2⟩

/-- Values that are given to keys one after the other are listed under their own keys, each key
once. -/
theorem mem_foldl_insert {f : α → κ} {l : List α} {e : κ × α}
    (h : e ∈ l.foldl (fun es a => insert (f a) a es) []) : e.2 ∈ l ∧ e.1 = f e.2 := by
  induction l using List.reverseRecOn with
  | nil => cases h
  | append_singleton l a ih =>
    rw [List.foldl_append] at h
    rcases mem_of_mem_insert h with rfl | earlier
    · exact ⟨List.mem_append_right l (List.mem_singleton_self a), rfl⟩
    · exact ⟨List.mem_append_left [a] (ih earlier).1, (ih earlier).2⟩

theorem nodup_keys_foldl_insert (f : α → κ) (l : List α) :
    (keys (l.foldl (fun es a => insert (f a) a es) [])).Nodup := by
  induction l using List.reverseRecOn with
  | nil => exact List.nodup_nil
  | append_singleton l a ih =>
    rw [List.foldl_append]
    exact nodup_keys_insert ih

end ApiOutline.Entries
