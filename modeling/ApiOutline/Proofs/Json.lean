import ApiOutline.Json.Reader
import ApiOutline.Proofs.Log
import ApiOutline.Proofs.Tree.Update

/-! Documents that are read from JSON text. Every object is built by putting in one entry after the
other, so no two of its keys are one. -/
namespace ApiOutline.Json

def Formed (o : Object) : Prop := (Tree.object o).wellFormed = true

theorem formed_nil : Formed [] := rfl

theorem Formed.insert {o : Object} {k : Scalar} {v : Tree} (formed : Formed o)
    (value : v.wellFormed = true) : Formed (o.insert k v) := by
  obtain ⟨distinct, values⟩ := Tree.wellFormed_object.mp formed
  refine Tree.wellFormed_object.mpr ⟨Object.Distinct.insert distinct, fun e he => ?_⟩
  rcases Object.mem_of_mem_insert he with ⟨_, same⟩ | old
  · rw [same]
    exact value
  · exact values e old

/-! ### What is read with so much fuel -/

def ValuesFormed (fuel : Nat) : Prop := ∀ levels cs t rest,
  value fuel levels cs = .ok (t, rest) → t.wellFormed = true

def MembersFormed (fuel : Nat) : Prop := ∀ levels o cs o' rest,
  members fuel levels o cs = .ok (o', rest) → Formed o → Formed o'

def ItemsFormed (fuel : Nat) : Prop := ∀ levels ts cs ts' rest,
  items fuel levels ts cs = .ok (ts', rest) →
    (∀ t ∈ ts, t.wellFormed = true) → ∀ t ∈ ts', t.wellFormed = true

theorem wellFormed_of_scalar {cs rest : List Char} {t : Tree} (h : scalar cs = .ok (t, rest)) :
    t.wellFormed = true := by
  unfold scalar at h
  split at h
  · cases h
    rfl
  · obtain ⟨found, _, same⟩ := Except.map_eq_ok.mp h
    cases same
    rfl

variable {fuel : Nat}

theorem ValuesFormed.succ (membersFormed : MembersFormed fuel) (itemsFormed : ItemsFormed fuel) :
    ValuesFormed (fuel + 1) := by
  intro levels cs t rest h
  unfold value at h
  split at h
  · obtain ⟨found, _, same⟩ := Except.map_eq_ok.mp h
    cases same
    rfl
  · split at h
    · cases h
    · split at h
      · cases h
        rfl
      · obtain ⟨found, read, same⟩ := Except.map_eq_ok.mp h
        cases same
        exact membersFormed _ _ _ _ _ read formed_nil
  · split at h
    · cases h
    · split at h
      · cases h
        rfl
      · obtain ⟨found, read, same⟩ := Except.map_eq_ok.mp h
        cases same
        exact Tree.wellFormedItems_iff.mpr (itemsFormed _ _ _ _ _ read nofun)
  · exact wellFormed_of_scalar h

theorem MembersFormed.succ (valuesFormed : ValuesFormed fuel)
    (membersFormed : MembersFormed fuel) : MembersFormed (fuel + 1) := by
  intro levels o cs o' rest h formed
  unfold members at h
  split at h
  · obtain ⟨⟨key, rest'⟩, _, h⟩ := Except.bind_eq_ok.mp h
    dsimp only at h
    split at h
    · obtain ⟨⟨v, rest''⟩, read, h⟩ := Except.bind_eq_ok.mp h
      dsimp only at h
      have next := formed.insert (k := .text key) (valuesFormed _ _ _ _ read)
      split at h
      · cases h
        exact next
      · exact membersFormed _ _ _ _ _ h next
      · cases h
    · cases h
  · cases h

theorem ItemsFormed.succ (valuesFormed : ValuesFormed fuel) (itemsFormed : ItemsFormed fuel) :
    ItemsFormed (fuel + 1) := by
  intro levels ts cs ts' rest h formed
  unfold items at h
  obtain ⟨⟨v, rest'⟩, read, h⟩ := Except.bind_eq_ok.mp h
  dsimp only at h
  have next : ∀ t ∈ v :: ts, t.wellFormed = true :=
    List.forall_mem_cons.mpr ⟨valuesFormed _ _ _ _ read, formed⟩
  split at h
  · cases h
    exact fun t ht => next t (List.mem_reverse.mp ht)
  · exact itemsFormed _ _ _ _ _ h next
  · cases h

theorem formed_of_fuel (fuel : Nat) :
    ValuesFormed fuel ∧ MembersFormed fuel ∧ ItemsFormed fuel := by
  -- The readers call one another with one unit of fuel less, so all three go together.
  induction fuel with
  | zero => exact ⟨nofun, nofun, nofun⟩
  | succ fuel ih =>
    obtain ⟨values, members, items⟩ := ih
    exact ⟨.succ members items, .succ values members, .succ values items⟩

theorem wellFormed_of_read [Machine] {text : List Char} {t : Tree} (h : read text = .ok t) :
    t.wellFormed = true := by
  unfold read at h
  split at h
  · cases h
  · obtain ⟨⟨v, rest⟩, found, h⟩ := Except.bind_eq_ok.mp h
    dsimp only at h
    split at h
    · cases h
      exact (formed_of_fuel _).1 _ _ _ _ found
    · cases h

end ApiOutline.Json
