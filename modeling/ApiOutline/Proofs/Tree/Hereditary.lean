import ApiOutline.Proofs.Tree.Shape

/-! Properties of documents that pass on to their parts. What is looked up in an object with such a
property has it too, whether the key is there or not. -/
namespace ApiOutline.Tree

/-- A property that the parts of a value have with it. Null and the empty object, which stand for
what is not there, have it as well. -/
structure Hereditary (P : Tree → Prop) : Prop where
  null : P .null
  empty : P (.object [])
  object {o : Object} {loop : Option Nat} : P (.object o loop) → P (.object o)
  entry {o : Object} {e : Scalar × Tree} : P (.object o) → e ∈ o → P e.2
  item {items : List Tree} {loop : Option Nat} {t : Tree} : P (.list items loop) → t ∈ items → P t

theorem wellFormed_hereditary : Hereditary (·.wellFormed = true) where
  null := rfl
  empty := rfl
  object := id
  entry formed he := (wellFormed_object.mp formed).2 _ he
  item formed ht := wellFormedItems_iff.mp formed _ ht

namespace Hereditary

variable {P : Tree → Prop} {o : Object} {k : Scalar} {t v : Tree}

theorem get? (inherits : Hereditary P) (whole : P (.object o)) (found : o.get? k = some v) :
    P v := by
  obtain ⟨e, he, _, rfl⟩ := Object.get?_eq_some found
  exact inherits.entry whole he

theorem getD (inherits : Hereditary P) (whole : P (.object o)) (k : Scalar) :
    P ((o.get? k).getD .null) := by
  cases found : o.get? k with
  | none => exact inherits.null
  | some v => exact inherits.get? whole found

theorem field (inherits : Hereditary P) (whole : P (.object o)) (name : String) :
    P (o.field name) :=
  inherits.getD whole (.text name)

theorem entriesOrNone (inherits : Hereditary P) (h : P t) : P (.object t.entriesOrNone) := by
  cases t with
  | object o loop => exact inherits.object h
  | _ => exact inherits.empty

end Hereditary

end ApiOutline.Tree
