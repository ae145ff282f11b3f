import ApiOutline.Proofs.Tree.Equality

/-! A comparison with a limit on the levels of values tells what equality tells, or it ends too
deep. The latter needs a value that has more levels than the limit. -/
namespace ApiOutline.Tree

mutual

/-- The levels of values inside a document. Nothing lies inside an empty collection. -/
def height : Tree → Nat
  | .scalar _ => 0
  | .set _ => 0
  | .pair a b => max (a.height + 1) (b.height + 1)
  | .list items _ => heightOfItems items
  | .object entries _ => heightOfEntries entries

def heightOfItems : List Tree → Nat
  | [] => 0
  | t :: ts => max (t.height + 1) (heightOfItems ts)

def heightOfEntries : List (Scalar × Tree) → Nat
  | [] => 0
  | (_, v) :: rest => max (v.height + 1) (heightOfEntries rest)

end

theorem height_lt_heightOfItems {t : Tree} {items : List Tree} (h : t ∈ items) :
    t.height < heightOfItems items := by
  induction items with
  | nil => cases h
  | cons u us ih =>
    simp only [heightOfItems]
    rcases List.mem_cons.mp h with rfl | h
    · omega
    · have := ih h
      omega

theorem height_lt_heightOfEntries {e : Scalar × Tree} {entries : Object} (h : e ∈ entries) :
    e.2.height < heightOfEntries entries := by
  induction entries with
  | nil => cases h
  | cons d ds ih =>
    simp only [heightOfEntries]
    rcases List.mem_cons.mp h with rfl | h
    · omega
    · have := ih h
      omega

theorem height_elements {t u : Tree} {items : List Tree} (shape : t.elements? = some items)
    (h : u ∈ items) : u.height < t.height := by
  cases t with
  | pair a b =>
    cases shape
    simp only [height]
    rcases List.mem_pair.mp h with rfl | rfl <;> omega
  | list => cases shape; exact height_lt_heightOfItems h
  | _ => cases shape

/-- A limited comparison, level by level: sequences of different lengths differ, and empty ones are
equal, whatever the limit. -/
theorem sameWithin_sequence {l r : Tree} {ls rs : List Tree} (levels : Nat)
    (hl : l.elements? = some ls) (hr : r.elements? = some rs) :
    l.sameWithin levels r =
      if ls.length ≠ rs.length then .ok false
      else if ls = [] then .ok true
      else if levels = 0 then .error .tooDeep
      else sameItemsWithin (levels - 1) ls rs := by
  have andThen_true (x : Except Malformed Bool) : andThen x (.ok true) = x := by
    match x with
    | .ok true => rfl
    | .ok false => rfl
    | .error _ => rfl
  cases l with
  | pair a b =>
    cases hl
    cases r with
    | pair c d => cases hr; simp [sameWithin, sameItemsWithin, andThen_true]
    | list items loop =>
      cases hr
      match rs with
      | [] => simp [sameWithin]
      | [c] => simp [sameWithin]
      | [c, d] => simp [sameWithin, sameItemsWithin, andThen_true]
      | c :: d :: e :: rest => simp [sameWithin]
    | _ => cases hr
  | list items loop =>
    cases hl
    cases r with
    | pair c d =>
      cases hr
      match ls with
      | [] => simp [sameWithin]
      | a :: rest => simp [sameWithin]
    | list items' loop' => cases hr; simp [sameWithin]
    | _ => cases hr
  | _ => cases hl

def Settles (levels : Nat) (l r : Tree) : Prop :=
  l.sameWithin levels r = .ok (l.same r) ∨
    l.sameWithin levels r = .error .tooDeep ∧ levels < l.height

theorem settles_items {levels : Nat} {ls : List Tree}
    (settles : ∀ l ∈ ls, ∀ r, Settles levels l r) (rs : List Tree) :
    sameItemsWithin levels ls rs = .ok (sameItems ls rs) ∨
      sameItemsWithin levels ls rs = .error .tooDeep ∧ ∃ l ∈ ls, levels < l.height := by
  induction ls generalizing rs with
  | nil => cases rs <;> exact .inl (by simp only [sameItemsWithin, sameItems])
  | cons l ls ih =>
    cases rs with
    | nil => exact .inl (by simp only [sameItemsWithin, sameItems])
    | cons r rs =>
      simp only [sameItemsWithin, sameItems]
      rcases settles l List.mem_cons_self r with first | ⟨first, deep⟩
      · cases hs : l.same r with
        | false => exact .inl (by rw [first, hs]; rfl)
        | true =>
          rw [first, hs]
          have later := ih (fun a ha => settles a (List.mem_cons_of_mem l ha)) rs
          rcases later with rest | ⟨rest, a, ha, deep⟩
          · exact .inl (by rw [rest]; rfl)
          · exact .inr ⟨by rw [rest]; rfl, a, List.mem_cons_of_mem l ha, deep⟩
      · exact .inr ⟨by rw [first]; rfl, l, List.mem_cons_self, deep⟩

theorem settles_entries {levels : Nat} {l : Object} (r : Object)
    (settles : ∀ e ∈ l, ∀ w, Settles levels e.2 w) :
    sameEntriesWithin levels r l = .ok (sameEntries r l) ∨
      sameEntriesWithin levels r l = .error .tooDeep ∧ ∃ e ∈ l, levels < e.2.height := by
  induction l with
  | nil => exact .inl (by simp only [sameEntriesWithin, sameEntries])
  | cons e es ih =>
    simp only [sameEntriesWithin, sameEntries]
    cases hw : r.get? e.1 with
    | none => exact .inl rfl
    | some w =>
      rcases settles e List.mem_cons_self w with first | ⟨first, deep⟩
      · cases hs : e.2.same w with
        | false => exact .inl (by simp only [first, hs]; rfl)
        | true =>
          simp only [first, hs]
          have later := ih fun d hd => settles d (List.mem_cons_of_mem e hd)
          rcases later with rest | ⟨rest, d, hd, deep⟩
          · exact .inl (by rw [rest]; rfl)
          · exact .inr ⟨by rw [rest]; rfl, d, List.mem_cons_of_mem e hd, deep⟩
      · exact .inr ⟨by simp only [first]; rfl, e, List.mem_cons_self, deep⟩

theorem settles (levels : Nat) (l r : Tree) : Settles levels l r := by
  induction l using shape_induction generalizing levels r with
  | scalar s => cases r <;> exact .inl (by simp only [sameWithin, same])
  | set members => cases r <;> exact .inl (by simp only [sameWithin, same])
  | sequence l ls shape ih =>
    cases shape' : r.elements? with
    | none =>
      refine .inl ?_
      cases l <;> cases r <;> simp_all only [elements?, sameWithin, same, reduceCtorEq]
    | some rs =>
      unfold Settles
      rw [sameWithin_sequence levels shape shape', same_sequence shape shape']
      by_cases lengths : ls.length = rs.length
      · by_cases empty : ls = []
        · subst empty
          cases List.length_eq_zero_iff.mp lengths.symm
          exact .inl rfl
        · rw [if_neg (not_not_intro lengths), if_neg empty]
          obtain ⟨u, hu⟩ := List.exists_mem_of_ne_nil ls empty
          have positive := height_elements shape hu
          by_cases spent : levels = 0
          · exact .inr ⟨if_pos spent, by omega⟩
          · rw [if_neg spent]
            have inside := settles_items (fun a ha => ih a ha (levels - 1)) rs
            rcases inside with ended | ⟨ended, a, ha, deep⟩
            · exact .inl ended
            · have := height_elements shape ha
              exact .inr ⟨ended, by omega⟩
      · rw [if_pos lengths]
        refine .inl (congrArg Except.ok ?_)
        refine (Bool.eq_false_iff.mpr fun equal => lengths ?_).symm
        exact (sameItems_iff.mp equal).length_eq
  | object l loop ih =>
    cases r with
    | object r loop' =>
      unfold Settles
      simp only [sameWithin, same, height]
      cases keys : Object.sameKeys l r with
      | false => exact .inl rfl
      | true =>
        cases l with
        | nil => exact .inl (by simp [sameEntries])
        | cons e es =>
          have positive : e.2.height < heightOfEntries (e :: es) :=
            height_lt_heightOfEntries List.mem_cons_self
          by_cases spent : levels = 0
          · exact .inr ⟨by simp [spent], by omega⟩
          · simp only [spent, List.isEmpty_cons, Bool.not_true, Bool.true_and, if_false,
              Bool.false_eq_true]
            rcases settles_entries r (fun d hd => ih d hd (levels - 1)) with
              ended | ⟨ended, d, hd, deep⟩
            · exact .inl ended
            · have := height_lt_heightOfEntries hd
              exact .inr ⟨ended, by omega⟩
    | _ => exact .inl (by simp only [sameWithin, same])

/-! ### Comparisons that come to an end

A comparison that finds no difference has gone through all levels. -/

theorem andThen_eq_true {x y : Except Malformed Bool} :
    andThen x y = .ok true ↔ x = .ok true ∧ y = .ok true := by
  match x with
  | .ok true => simp [andThen]
  | .ok false => simp [andThen]
  | .error _ => simp [andThen]

theorem sameWithin_of_mem_items {levels : Nat} {ls rs : List Tree}
    (h : sameItemsWithin levels ls rs = .ok true) {l : Tree} (hl : l ∈ ls) :
    ∃ r, l.sameWithin levels r = .ok true := by
  induction ls generalizing rs with
  | nil => cases hl
  | cons a ls ih =>
    cases rs with
    | nil => simp [sameItemsWithin] at h
    | cons r rs =>
      simp only [sameItemsWithin, andThen_eq_true] at h
      rcases List.mem_cons.mp hl with rfl | hl
      · exact ⟨r, h.1⟩
      · exact ih h.2 hl

theorem sameWithin_of_mem_entries {levels : Nat} {l r : Object}
    (h : sameEntriesWithin levels r l = .ok true) {e : Scalar × Tree} (he : e ∈ l) :
    ∃ w, e.2.sameWithin levels w = .ok true := by
  induction l with
  | nil => cases he
  | cons a l ih =>
    simp only [sameEntriesWithin, andThen_eq_true] at h
    rcases List.mem_cons.mp he with rfl | he
    · cases found : r.get? e.1 with
      | none => simp [found] at h
      | some w => exact ⟨w, by simpa [found] using h.1⟩
    · exact ih h.2 he

theorem heightOfItems_le {n : Nat} {items : List Tree} (h : ∀ t ∈ items, t.height < n) :
    heightOfItems items ≤ n := by
  induction items with
  | nil => exact Nat.zero_le n
  | cons t ts ih =>
    exact Nat.max_le.mpr ⟨h t List.mem_cons_self, ih fun u hu => h u (List.mem_cons_of_mem t hu)⟩

theorem heightOfEntries_le {n : Nat} {entries : Object} (h : ∀ e ∈ entries, e.2.height < n) :
    heightOfEntries entries ≤ n := by
  induction entries with
  | nil => exact Nat.zero_le n
  | cons e es ih =>
    exact Nat.max_le.mpr ⟨h e List.mem_cons_self, ih fun u hu => h u (List.mem_cons_of_mem e hu)⟩

theorem height_le_of_elements {n : Nat} {t : Tree} {items : List Tree}
    (shape : t.elements? = some items) (h : ∀ u ∈ items, u.height < n) : t.height ≤ n := by
  cases t with
  | pair a b =>
    cases shape
    exact Nat.max_le.mpr ⟨h a (by simp), h b (by simp)⟩
  | list => cases shape; exact heightOfItems_le h
  | _ => cases shape

theorem height_le_of_sameWithin {levels : Nat} {l r : Tree} (h : l.sameWithin levels r = .ok true) :
    l.height ≤ levels := by
  induction l using shape_induction generalizing levels r with
  | scalar s => exact Nat.zero_le levels
  | set members => exact Nat.zero_le levels
  | sequence l ls shape ih =>
    refine height_le_of_elements shape fun a ha => ?_
    cases shape' : r.elements? with
    | none => cases l <;> cases r <;> simp_all [elements?, sameWithin]
    | some rs =>
      rw [sameWithin_sequence levels shape shape', if_neg (List.ne_nil_of_mem ha)] at h
      split at h
      · cases h
      · split at h
        · cases h
        · obtain ⟨b, equal⟩ := sameWithin_of_mem_items h ha
          have := ih a ha equal
          omega
  | object l loop ih =>
    refine heightOfEntries_le fun e he => ?_
    cases r with
    | object r loop' =>
      simp only [sameWithin, List.isEmpty_iff, List.ne_nil_of_mem he, if_false] at h
      split at h
      · cases h
      · split at h
        · cases h
        · obtain ⟨w, equal⟩ := sameWithin_of_mem_entries h he
          have := ih e he equal
          omega
    | _ => simp [sameWithin] at h

/-! ### Comparisons that are too deep

A comparison goes down both documents at once, so both have more levels than it may go through. -/

theorem andThen_eq_error {x y : Except Malformed Bool} {what : Malformed}
    (h : andThen x y = .error what) : x = .error what ∨ y = .error what := by
  match x with
  | .ok true => exact .inr h
  | .ok false => cases h
  | .error _ => exact .inl h

theorem exists_of_sameItemsWithin {levels : Nat} {ls rs : List Tree} {what : Malformed}
    (h : sameItemsWithin levels ls rs = .error what) :
    ∃ l ∈ ls, ∃ r ∈ rs, l.sameWithin levels r = .error what := by
  induction ls generalizing rs with
  | nil => cases rs <;> simp [sameItemsWithin] at h
  | cons l ls ih =>
    cases rs with
    | nil => simp [sameItemsWithin] at h
    | cons r rs =>
      simp only [sameItemsWithin] at h
      rcases andThen_eq_error h with first | later
      · exact ⟨l, List.mem_cons_self, r, List.mem_cons_self, first⟩
      · obtain ⟨a, ha, b, hb, deep⟩ := ih later
        exact ⟨a, List.mem_cons_of_mem l ha, b, List.mem_cons_of_mem r hb, deep⟩

theorem exists_of_sameEntriesWithin {levels : Nat} {l r : Object} {what : Malformed}
    (h : sameEntriesWithin levels r l = .error what) :
    ∃ e ∈ l, ∃ d ∈ r, e.2.sameWithin levels d.2 = .error what := by
  induction l with
  | nil => simp [sameEntriesWithin] at h
  | cons e es ih =>
    simp only [sameEntriesWithin] at h
    rcases andThen_eq_error h with first | later
    · split at first
      · rename_i w found
        obtain ⟨d, hd, _, rfl⟩ := Object.get?_eq_some found
        exact ⟨e, List.mem_cons_self, d, hd, first⟩
      · cases first
    · obtain ⟨a, ha, d, hd, deep⟩ := ih later
      exact ⟨a, List.mem_cons_of_mem e ha, d, hd, deep⟩

theorem lt_height_of_sameWithin {levels : Nat} {l r : Tree} {what : Malformed}
    (h : l.sameWithin levels r = .error what) : levels < r.height := by
  induction l using shape_induction generalizing levels r with
  | scalar s => cases r <;> simp [sameWithin] at h
  | set members => cases r <;> simp [sameWithin] at h
  | sequence l ls shape ih =>
    cases shape' : r.elements? with
    | none => cases l <;> cases r <;> simp_all [elements?, sameWithin]
    | some rs =>
      rw [sameWithin_sequence levels shape shape'] at h
      split at h
      · cases h
      · rename_i lengths
        split at h
        · cases h
        · rename_i filled
          split at h
          · rename_i spent
            have given : rs ≠ [] := fun empty =>
              filled (List.length_eq_zero_iff.mp (by simpa [empty] using lengths))
            obtain ⟨b, hb⟩ := List.exists_mem_of_ne_nil rs given
            have := height_elements shape' hb
            omega
          · obtain ⟨a, ha, b, hb, deep⟩ := exists_of_sameItemsWithin h
            have := ih a ha deep
            have := height_elements shape' hb
            omega
  | object l loop ih =>
    cases r with
    | object r loop' =>
      simp only [sameWithin] at h
      split at h
      · cases h
      · rename_i keys
        split at h
        · cases h
        · rename_i filled
          split at h
          · rename_i spent
            obtain ⟨e, he⟩ := List.exists_mem_of_ne_nil l (by simpa using filled)
            have keys : Object.sameKeys r l = true := Object.sameKeys_symm (by simpa using keys)
            obtain ⟨v, found⟩ := Object.get?_of_sameKeys keys he
            obtain ⟨d, hd, _⟩ := Object.get?_eq_some found
            have : d.2.height < heightOfEntries r := height_lt_heightOfEntries hd
            simp only [height]
            omega
          · obtain ⟨e, he, d, hd, deep⟩ := exists_of_sameEntriesWithin h
            have := ih e he deep
            have : d.2.height < heightOfEntries r := height_lt_heightOfEntries hd
            simp only [height]
            omega
    | _ => simp [sameWithin] at h

/-! ### Comparisons of schemas -/

open Machine (comparedLevels)

variable [Machine]

theorem compare_cases (l r : Tree) : l.compare r = .ok (l.same r) ∨
    l.compare r = .error .tooDeep ∧ comparedLevels < l.height :=
  settles comparedLevels l r

theorem height_of_compare {l r : Tree} (h : l.compare r = .ok true) : l.height ≤ comparedLevels :=
  height_le_of_sameWithin h

/-- A comparison comes to an end if one of the documents has no more levels than it goes through. -/
theorem compare_of_height {l r : Tree}
    (shallow : l.height ≤ comparedLevels ∨ r.height ≤ comparedLevels) :
    l.compare r = .ok (l.same r) := by
  rcases compare_cases l r with settled | ⟨ended, deep⟩
  · exact settled
  · have := lt_height_of_sameWithin ended
    omega

theorem compare_eq_true_iff {l r : Tree} :
    l.compare r = .ok true ↔ l.same r = true ∧ l.height ≤ comparedLevels := by
  constructor
  · intro h
    refine ⟨?_, height_of_compare h⟩
    rw [compare_of_height (.inl (height_of_compare h))] at h
    exact Except.ok.inj h
  · rintro ⟨equal, shallow⟩
    rw [compare_of_height (.inl shallow), equal]

omit [Machine] in
/-- Equal documents have as many levels, so a comparison that finds them equal has gone through all
levels of both. -/
theorem height_le_of_same {l r : Tree} (formed : r.wellFormed = true) (equal : l.same r = true) :
    r.height ≤ l.height := by
  induction l using shape_induction generalizing r with
  | scalar s =>
    cases same_iff_matches.mp equal with
    | scalar => exact Nat.le_refl 0
    | sequence shape => cases shape
  | set members =>
    cases same_iff_matches.mp equal with
    | set => exact Nat.le_refl 0
    | sequence shape => cases shape
  | sequence l ls shape ih =>
    cases same_iff_matches.mp equal with
    | sequence shape' right parts =>
      cases shape.symm.trans shape'
      have formed := (wellFormed_elements right).mp formed
      apply height_le_of_elements right
      intro b hb
      obtain ⟨i, hi, rfl⟩ := List.mem_iff_getElem.mp hb
      have hi' : i < ls.length := by rw [parts.length_eq]; exact hi
      have part := parts.get hi' hi
      have below := height_elements shape (List.getElem_mem hi')
      have := ih ls[i] (List.getElem_mem hi') (formed _ hb) part
      omega
    | _ => cases shape
  | object l loop ih =>
    cases same_iff_matches.mp equal with
    | sequence shape => cases shape
    | object keys values =>
      obtain ⟨distinct, formed⟩ := wellFormed_object.mp formed
      apply heightOfEntries_le
      intro e he
      obtain ⟨v, found⟩ := Object.get?_of_sameKeys keys he
      obtain ⟨d, hd, key, rfl⟩ := Object.get?_eq_some found
      obtain ⟨w, found', part⟩ := values d hd
      rw [Object.get?_congr _ key, Object.get?_of_mem distinct he] at found'
      cases found'
      have below : d.2.height < heightOfEntries l := height_lt_heightOfEntries hd
      have := ih d hd (formed e he) part
      simp only [height]
      omega

theorem same_of_compare {l r : Tree} (h : l.compare r = .ok true) : l.same r = true :=
  (compare_eq_true_iff.mp h).1

theorem heights_of_compare {l r : Tree} (formed : r.wellFormed = true)
    (h : l.compare r = .ok true) : l.height ≤ comparedLevels ∧ r.height ≤ comparedLevels := by
  have left := height_of_compare h
  have right := height_le_of_same formed (same_of_compare h)
  exact ⟨left, Nat.le_trans right left⟩

/-! ### Lists inside one another -/

end ApiOutline.Tree
