import ApiOutline.Proofs.Tree.Shape
import ApiOutline.Reference

/-! What references lead to. Whatever a value stands for in a document is no reference itself. -/
namespace ApiOutline.Reference

variable {root t v : Tree}

variable [Machine]

theorem lookup_of_not_text {reference : Tree} (other : reference.text? = none) :
    lookup root reference ≠ .ok v := by
  unfold lookup
  split
  · cases other
  · split <;> simp

theorem follow_of_plain {seen : List String} (plain : of? t = none) :
    follow root seen t = .ok t := by
  unfold follow
  split
  · rfl
  · simp_all

theorem follow_of_text {seen : List String} {r : String} (reference : of? t = some (.text r)) :
    follow root seen t =
      if seen.contains r then .error (.reference (.circular r))
      else match target root r with
        | .ok v => follow root (r :: seen) v
        | .error e => .error (.reference e) := by
  have is_text : text? t = some r := by rw [text?, reference]; rfl
  rw [follow]
  split
  · rename_i plain
    rw [plain] at reference
    cases reference
  · split
    · rename_i r' is_text'
      cases is_text.symm.trans is_text'
      split
      · rfl
      · split <;> simp only [*]
    · rename_i not_text
      cases is_text.symm.trans not_text

theorem follow_of_scalar {seen : List String} {s : Scalar} (reference : of? t = some (.scalar s))
    (other : (Tree.scalar s).text? = none) : follow root seen t = lookup root (.scalar s) := by
  have no_text : text? t = none := by rw [text?, reference]; exact other
  rw [follow]
  split
  · rename_i plain
    cases plain.symm.trans reference
  · rename_i c is_reference
    cases is_reference.symm.trans reference
    split
    · rename_i r is_text
      cases is_text.symm.trans no_text
    · rfl

theorem follow_of_compound {seen : List String} {c : Tree} (reference : of? t = some c)
    (compound : ∀ s, c ≠ .scalar s) : follow root seen t = .error (.malformed .compoundKey) := by
  have no_text : text? t = none := by
    rw [text?, reference]
    exact Tree.text?_of_compound compound
  rw [follow]
  split
  · rename_i plain
    cases plain.symm.trans reference
  · rename_i c' is_reference
    cases is_reference.symm.trans reference
    split
    · rename_i r is_text
      cases is_text.symm.trans no_text
    · cases c with
      | scalar s => exact absurd rfl (compound s)
      | _ => rfl

/-- Induction along a chain of references. It ends because each reference that is followed leaves
fewer texts of the document to come to. -/
theorem follow_induction {P : List String → Tree → Except Failure Tree → Prop}
    (plain : ∀ {seen t}, of? t = none → P seen t (.ok t))
    (again : ∀ {seen t r}, of? t = some (.text r) → r ∈ seen →
      P seen t (.error (.reference (.circular r))))
    (nowhere : ∀ {seen t r e}, of? t = some (.text r) → r ∉ seen → target root r = .error e →
      P seen t (.error (.reference e)))
    (found : ∀ {seen t u r outcome}, of? t = some (.text r) → r ∉ seen → target root r = .ok u →
      P (r :: seen) u outcome → P seen t outcome)
    (other : ∀ {seen t s}, of? t = some (.scalar s) → (Tree.scalar s).text? = none →
      P seen t (lookup root (.scalar s)))
    (compound : ∀ {seen t c}, of? t = some c → (∀ s, c ≠ .scalar s) →
      P seen t (.error (.malformed .compoundKey)))
    (seen : List String) (t : Tree) : P seen t (follow root seen t) := by
  induction left : remaining root seen t using Nat.strongRecOn generalizing seen t with
  | ind n ih =>
    cases reference : of? t with
    | none =>
      rw [follow_of_plain reference]
      exact plain reference
    | some c =>
      cases c with
      | scalar s =>
        cases is_text : (Tree.scalar s).text? with
        | none =>
          rw [follow_of_scalar reference is_text]
          exact other reference is_text
        | some r =>
          cases Tree.eq_text_of_text? is_text
          rw [follow_of_text reference]
          by_cases known : r ∈ seen
          · rw [if_pos (List.contains_iff_mem.mpr known)]
            exact again reference known
          · have fresh := mt List.contains_iff_mem.mp known
            rw [if_neg fresh]
            cases reached : target root r with
            | error e => exact nowhere reference known reached
            | ok u =>
              have is_text : text? t = some r := by rw [text?, reference]; rfl
              have fewer := remaining_lt is_text fresh reached
              exact found reference known reached (ih _ (left ▸ fewer) _ _ rfl)
      | _ =>
        rw [follow_of_compound reference (by simp)]
        exact compound reference (by simp)

theorem of?_of_follow {seen : List String} (h : follow root seen t = .ok v) : of? v = none := by
  refine follow_induction (P := fun _ _ outcome => outcome = .ok v → of? v = none)
    ?_ nofun nofun ?_ ?_ nofun seen t h
  · intro seen t plain same
    cases same
    exact plain
  · exact fun _ _ _ ih => ih
  · exact fun _ other same => absurd same (lookup_of_not_text other)

theorem of?_of_resolve (h : resolve root t = .ok v) : of? v = none := of?_of_follow h

theorem resolve_of_plain (plain : of? t = none) : resolve root t = .ok t := follow_of_plain plain

end ApiOutline.Reference
