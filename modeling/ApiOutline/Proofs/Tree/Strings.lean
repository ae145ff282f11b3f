import ApiOutline.Proofs.Text.Alphabet
import ApiOutline.Proofs.Tree.Hereditary

/-! The texts that stand in a document, as values and as keys. -/
namespace ApiOutline

def Scalar.strings : Scalar → List String
  | .text s => [s]
  | _ => []

namespace Tree

mutual

def strings : Tree → List String
  | .scalar s => s.strings
  | .pair a b => strings a ++ strings b
  | .set members => members.flatMap Scalar.strings
  | .list items _ => stringsOfItems items
  | .object entries _ => stringsOfEntries entries

def stringsOfItems : List Tree → List String
  | [] => []
  | t :: ts => strings t ++ stringsOfItems ts

def stringsOfEntries : List (Scalar × Tree) → List String
  | [] => []
  | (k, v) :: es => k.strings ++ strings v ++ stringsOfEntries es

end

theorem mem_stringsOfItems {s : String} {ts : List Tree} :
    s ∈ stringsOfItems ts ↔ ∃ t ∈ ts, s ∈ t.strings := by
  induction ts with
  | nil => simp [stringsOfItems]
  | cons t ts ih => simp [stringsOfItems, ih]

theorem mem_stringsOfEntries {s : String} {es : Object} :
    s ∈ stringsOfEntries es ↔ ∃ e ∈ es, s ∈ e.1.strings ∨ s ∈ e.2.strings := by
  induction es with
  | nil => simp [stringsOfEntries]
  | cons e es ih => simp [stringsOfEntries, ih, or_assoc]

def MadeOf (P : Char → Prop) (t : Tree) : Prop := ∀ s ∈ t.strings, Text.MadeOf P s

variable {P : Char → Prop} {t : Tree} {o : Object} {e : Scalar × Tree} {s : String}

theorem madeOf_hereditary : Hereditary (MadeOf P) where
  null := by simp [MadeOf, null, strings, Scalar.strings]
  empty := by simp [MadeOf, strings, stringsOfEntries]
  object := id
  entry made he s hs := made s (mem_stringsOfEntries.mpr ⟨_, he, .inr hs⟩)
  item made ht s hs := made s (mem_stringsOfItems.mpr ⟨_, ht, hs⟩)

theorem MadeOf.text? (made : t.MadeOf P) (is_text : t.text? = some s) : Text.MadeOf P s := by
  rw [eq_text_of_text? is_text] at made
  exact made s List.mem_cons_self

theorem MadeOf.key (made : (Tree.object o).MadeOf P) (he : e ∈ o) (is_text : e.1 = .text s) :
    Text.MadeOf P s := by
  refine made s (mem_stringsOfEntries.mpr ⟨e, he, .inl ?_⟩)
  rw [is_text]
  exact List.mem_cons_self

end Tree

end ApiOutline
