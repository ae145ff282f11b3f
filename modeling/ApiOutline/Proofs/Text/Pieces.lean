import Mathlib.Data.List.Infix

/-! Texts cut into pieces at separators. -/
namespace ApiOutline.Text

variable {α : Type} {p : α → Bool}

/-- Induction on a text from one separator to the next. -/
theorem pieces_induction {P : List α → Prop} (piece : ∀ w, (∀ a ∈ w, p a = false) → P w)
    (separated : ∀ w separator rest, (∀ a ∈ w, p a = false) → p separator = true → P rest →
      P (w ++ separator :: rest)) (text : List α) : P text := by
  -- What has come since the last separator waits in front of what is still to come.
  suffices waiting : ∀ w, (∀ a ∈ w, p a = false) → P (w ++ text) by
    simpa using waiting []
  induction text with
  | nil =>
    intro w inside
    simpa using piece w inside
  | cons a text ih =>
    intro w inside
    cases ends : p a with
    | false =>
      have longer : ∀ b ∈ w ++ [a], p b = false := by
        intro b hb
        rcases List.mem_append.mp hb with hb | hb
        · exact inside b hb
        · rw [List.mem_singleton.mp hb, ends]
      simpa using ih (w ++ [a]) longer
    | true => exact separated w a text inside ends (by simpa using ih [])

theorem infix_separated {part w rest : List α} {separator : α} (inside : separator ∉ part) :
    part <:+: w ++ separator :: rest ↔ part <:+: w ∨ part <:+: rest := by
  rw [List.infix_append_iff, List.infix_cons_iff]
  constructor
  · rintro (left | (first | right) | ⟨before, after, rfl, ending, starting⟩)
    · exact .inl left
    · cases part with
      | nil => exact .inr List.nil_infix
      | cons a part =>
        have same := (List.cons_prefix_cons.mp first).1
        exact absurd (same ▸ List.mem_cons_self) inside
    · exact .inr right
    · cases after with
      | nil =>
        rw [List.append_nil]
        exact .inl ending.isInfix
      | cons a after =>
        have same := (List.cons_prefix_cons.mp starting).1
        exact absurd (same ▸ List.mem_append_right before List.mem_cons_self) inside
  · rintro (left | right)
    · exact .inl left
    · exact .inr (.inl (.inr right))

/-! ### Pieces and the text that they make -/

theorem forall_mem_intercalate {P : α → Prop} {separator : List α} {ls : List (List α)}
    (between : ∀ a ∈ separator, P a) (each : ∀ l ∈ ls, ∀ a ∈ l, P a) :
    ∀ a ∈ separator.intercalate ls, P a := by
  induction ls with
  | nil => simp
  | cons l rest ih =>
    cases rest with
    | nil => simpa using each
    | cons next rest =>
      rw [List.intercalate_cons_cons]
      intro a member
      rcases List.mem_append.mp member with member | later
      · exact (List.mem_append.mp member).elim (each l List.mem_cons_self a) (between a)
      · exact ih (fun m hm => each m (List.mem_cons_of_mem l hm)) a later

theorem mem_intercalate {separator l : List α} {ls : List (List α)} {a : α} (hl : l ∈ ls)
    (ha : a ∈ l) : a ∈ separator.intercalate ls := by
  induction ls with
  | nil => cases hl
  | cons first rest ih =>
    cases rest with
    | nil =>
      cases List.mem_singleton.mp hl
      simpa using ha
    | cons next rest =>
      rw [List.intercalate_cons_cons]
      rcases List.mem_cons.mp hl with rfl | later
      · exact List.mem_append_left _ (List.mem_append_left _ ha)
      · exact List.mem_append_right _ (ih later)

theorem mem_of_mem_splitOn [BEq α] [LawfulBEq α] {separator : α} {text w : List α} {a : α}
    (hw : w ∈ text.splitOn separator) (ha : a ∈ w) : a ∈ text := by
  have inside : a ∈ [separator].intercalate (text.splitOn separator) := mem_intercalate hw ha
  rwa [List.intercalate_splitOn] at inside

end ApiOutline.Text
