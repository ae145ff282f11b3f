import ApiOutline.Proofs.Source
import ApiOutline.Proofs.Tree.Depth

/-! Comparisons of values that were loaded. To be found equal is a partial equivalence: it is
symmetric and transitive, and a value is found equal to itself exactly if all numbers in it are
numbers and it has no more levels than are compared. -/
namespace ApiOutline.Tree

variable {l m r t u : Tree}

open Machine (comparedLevels jsonLevels)

section

variable [Machine]

/-- The documents that can be loaded, and the values inside them. -/
inductive Loaded : Tree → Prop where
  | document {s : Surroundings} {source : String} {document : Object} :
      (Source.load s source).result = .ok document → Loaded (.object document)
  | element {t u : Tree} {items : List Tree} : Loaded t → t.elements? = some items → u ∈ items →
      Loaded u
  | entry {o : Object} {loop : Option Nat} {e : Scalar × Tree} : Loaded (.object o loop) → e ∈ o →
      Loaded e.2

theorem Loaded.wellFormed (loaded : Loaded t) : t.wellFormed = true := by
  induction loaded with
  | document h => exact Source.wellFormed_of_load h
  | element _ shape member ih => exact (wellFormed_elements shape).mp ih _ member
  | entry _ member ih => exact (wellFormed_object.mp ih).2 _ member

end

end ApiOutline.Tree
