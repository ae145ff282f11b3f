import ApiOutline.Proofs.Log
import ApiOutline.Proofs.Reference
import ApiOutline.Proofs.Tree.Hereditary

/-! Properties that a document passes on to its parts, along references. Each step of a reference
leads to a part, so a chain of references leads from a value with the property to one with it. -/
namespace ApiOutline.Tree.Hereditary

variable {P : Tree → Prop} {root t v : Tree} {r : String}

theorem step (inherits : Hereditary P) {segment : String} (h : P t)
    (found : Reference.step r t segment = .ok v) : P v := by
  unfold Reference.step at found
  split at found
  · split at found
    · rename_i w value
      cases found
      exact inherits.get? (inherits.object h) value
    · cases found
  · split at found
    · rename_i w value
      cases found
      obtain ⟨i, _, item⟩ := Option.bind_eq_some_iff.mp value
      exact inherits.item h (Reference.mem_of_itemAt? item)
    · cases found
  · cases found

theorem walk (inherits : Hereditary P) {segments : List String} (h : P t)
    (found : Reference.walk r t segments = .ok v) : P v := by
  induction segments generalizing t with
  | nil =>
    cases found
    exact h
  | cons segment rest ih =>
    unfold Reference.walk at found
    split at found
    · rename_i u reached
      exact ih (inherits.step h reached) found
    · cases found

theorem target (inherits : Hereditary P) (whole : P root)
    (found : Reference.target root r = .ok v) : P v := by
  unfold Reference.target at found
  split at found
  · exact inherits.walk whole found
  · cases found

variable [Machine]

theorem lookup (inherits : Hereditary P) (whole : P root)
    (found : Reference.lookup root t = .ok v) : P v := by
  unfold Reference.lookup at found
  split at found
  · exact inherits.target whole (Except.mapError_eq_ok.mp found)
  · split at found <;> cases found

theorem follow (inherits : Hereditary P) (whole : P root) {seen : List String} (h : P t)
    (found : Reference.follow root seen t = .ok v) : P v := by
  refine Reference.follow_induction (P := fun _ t outcome => P t → outcome = .ok v → P v)
    ?_ nofun nofun ?_ ?_ nofun seen t h found
  · intro seen t _ h same
    cases same
    exact h
  · exact fun _ _ reached ih _ => ih (inherits.target whole reached)
  · exact fun _ _ _ => inherits.lookup whole

theorem resolve (inherits : Hereditary P) (whole : P root) (h : P t)
    (found : Reference.resolve root t = .ok v) : P v :=
  inherits.follow whole h found

end ApiOutline.Tree.Hereditary
