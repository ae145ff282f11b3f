import Mathlib.Data.List.Forall2
import ApiOutline.Proofs.Tree.Shape

/-! Equality of documents is a partial equivalence. It is transitive without any condition, and
symmetric on well formed documents. Such a document equals itself if it holds no value that is not a
number. -/
namespace ApiOutline

namespace Object

theorem sameKeys_symm {l r : Object} (h : sameKeys l r = true) : sameKeys r l = true := by
  simpa only [sameKeys, Bool.and_comm] using h

theorem get?_of_sameKeys {l r : Object} (h : sameKeys l r = true) {e : Scalar × Tree}
    (he : e ∈ r) : ∃ v, l.get? e.1 = some v := by
  simp only [sameKeys, Bool.and_eq_true, List.all_eq_true] at h
  exact Option.isSome_iff_exists.mp (h.2 e he)

theorem sameKeys_trans {l m r : Object} (hl : sameKeys l m = true) (hr : sameKeys m r = true) :
    sameKeys l r = true := by
  have chain {l m r : Object} (hl : sameKeys m l = true) (hr : sameKeys r m = true) :
      ∀ e ∈ l, (r.get? e.1).isSome = true := by
    intro e he
    obtain ⟨v, hv⟩ := get?_of_sameKeys hl he
    obtain ⟨d, hd, key, rfl⟩ := get?_eq_some hv
    obtain ⟨w, hw⟩ := get?_of_sameKeys hr hd
    rw [← get?_congr r key, hw, Option.isSome_some]
  simp only [sameKeys, Bool.and_eq_true, List.all_eq_true]
  exact ⟨chain (sameKeys_symm hl) (sameKeys_symm hr), chain hr hl⟩

theorem sameKeys_self {o : Object} (distinct : (o.map (·.1.identity)).Nodup) :
    sameKeys o o = true := by
  have found : ∀ e ∈ o, (o.get? e.1).isSome = true := fun e he => by
    rw [get?_of_mem distinct he, Option.isSome_some]
  simp only [sameKeys, Bool.and_eq_true, List.all_eq_true]
  exact ⟨found, found⟩

end Object

namespace Tree

/-! ### Equality, level by level -/

/-- What equality asks of two documents whose parts are compared by a relation. -/
inductive Matches (R : Tree → Tree → Prop) : Tree → Tree → Prop where
  | scalar {a b : Scalar} : a.same b = true → Matches R (.scalar a) (.scalar b)
  | set {l r : List Scalar} : Scalar.sameMembers l r = true → Matches R (.set l) (.set r)
  | sequence {l r : Tree} {ls rs : List Tree} : l.elements? = some ls → r.elements? = some rs →
      List.Forall₂ R ls rs → Matches R l r
  | object {l r : Object} {loop loop' : Option Nat} : Object.sameKeys l r = true →
      (∀ e ∈ l, ∃ w, r.get? e.1 = some w ∧ R e.2 w) → Matches R (.object l loop) (.object r loop')

theorem sameItems_iff {ls rs : List Tree} :
    sameItems ls rs = true ↔ List.Forall₂ (fun l r => l.same r = true) ls rs := by
  induction ls generalizing rs with
  | nil => cases rs <;> simp [sameItems]
  | cons l ls ih => cases rs <;> simp [sameItems, ih]

theorem sameEntries_iff {l r : Object} :
    sameEntries r l = true ↔ ∀ e ∈ l, ∃ w, r.get? e.1 = some w ∧ e.2.same w = true := by
  induction l with
  | nil => simp [sameEntries]
  | cons e es ih =>
    cases h : r.get? e.1 <;> simp [sameEntries, ih, h]

theorem same_sequence {l r : Tree} {ls rs : List Tree} (hl : l.elements? = some ls)
    (hr : r.elements? = some rs) : l.same r = sameItems ls rs := by
  cases l with
  | pair a b =>
    cases hl
    cases r with
    | pair c d => cases hr; simp [same, sameItems]
    | list items loop =>
      cases hr
      match rs with
      | [] => simp [same, sameItems]
      | [c] => simp [same, sameItems]
      | [c, d] => simp [same, sameItems]
      | c :: d :: e :: rest => simp [same, sameItems]
    | _ => cases hr
  | list items loop =>
    cases hl
    cases r with
    | pair c d => cases hr; simp only [same]
    | list items' loop' => cases hr; simp only [same]
    | _ => cases hr
  | _ => cases hl

theorem same_iff_matches {l r : Tree} :
    l.same r = true ↔ Matches (fun a b => a.same b = true) l r := by
  constructor
  · intro h
    cases hl : l.elements? with
    | some ls =>
      cases hr : r.elements? with
      | some rs =>
        exact .sequence hl hr (sameItems_iff.mp (same_sequence hl hr ▸ h))
      | none => cases l <;> cases r <;> simp [same, elements?] at h hl hr
    | none =>
      cases l <;> cases r <;> simp only [same, elements?, Bool.and_eq_true, reduceCtorEq,
        Bool.false_eq_true] at h hl
      · exact .scalar h
      · exact .set h
      · exact .object h.1 (sameEntries_iff.mp h.2)
  · intro h
    cases h with
    | scalar h => simpa only [same] using h
    | set h => simpa only [same] using h
    | sequence hl hr h => rw [same_sequence hl hr]; exact sameItems_iff.mpr h
    | object keys values =>
      simp only [same, Bool.and_eq_true]
      exact ⟨keys, sameEntries_iff.mpr values⟩

/-! ### Partial equivalence -/

theorem forall₂_flip_of_mem {R : Tree → Tree → Prop} {ls rs : List Tree}
    (h : List.Forall₂ R ls rs) (flip : ∀ l ∈ ls, ∀ r ∈ rs, R l r → R r l) :
    List.Forall₂ R rs ls := by
  induction h with
  | nil => exact .nil
  | @cons l r ls rs hlr _ ih =>
    refine .cons (flip l List.mem_cons_self r List.mem_cons_self hlr) (ih ?_)
    exact fun a ha b hb => flip a (List.mem_cons_of_mem l ha) b (List.mem_cons_of_mem r hb)

theorem forall₂_trans_of_mem {R : Tree → Tree → Prop} {ls ms rs : List Tree}
    (hl : List.Forall₂ R ls ms) (hr : List.Forall₂ R ms rs)
    (trans : ∀ l ∈ ls, ∀ m r, R l m → R m r → R l r) : List.Forall₂ R ls rs := by
  induction hl generalizing rs with
  | nil => exact hr
  | @cons l m ls ms hlm _ ih =>
    cases hr with
    | cons hmr rest =>
      refine .cons (trans l List.mem_cons_self _ _ hlm hmr) (ih rest ?_)
      exact fun a ha => trans a (List.mem_cons_of_mem l ha)

theorem same_symm {l r : Tree} (hl : l.wellFormed = true) (hr : r.wellFormed = true)
    (h : l.same r = true) : r.same l = true := by
  induction l using shape_induction generalizing r with
  | scalar s =>
    cases same_iff_matches.mp h with
    | scalar h => exact same_iff_matches.mpr (.scalar (Scalar.same_symm h))
    | sequence hl => cases hl
  | set m =>
    cases same_iff_matches.mp h with
    | set h => exact same_iff_matches.mpr (.set (Scalar.sameMembers_symm h))
    | sequence hl => cases hl
  | sequence l items shape ih =>
    cases same_iff_matches.mp h with
    | sequence shape' hr' parts =>
      cases shape.symm.trans shape'
      have formed := (wellFormed_elements shape).mp hl
      have formed' := (wellFormed_elements hr').mp hr
      refine same_iff_matches.mpr (.sequence hr' shape (forall₂_flip_of_mem parts ?_))
      exact fun a ha b hb hab => ih a ha (formed a ha) (formed' b hb) hab
    | _ => cases shape
  | object l loop ih =>
    cases same_iff_matches.mp h with
    | sequence hl => cases hl
    | @object _ r _ loop' keys values =>
      obtain ⟨_, formed⟩ := wellFormed_object.mp hl
      obtain ⟨distinct, formed'⟩ := wellFormed_object.mp hr
      refine same_iff_matches.mpr (.object (Object.sameKeys_symm keys) fun e he => ?_)
      obtain ⟨v, hv⟩ := Object.get?_of_sameKeys keys he
      obtain ⟨d, hd, key, rfl⟩ := Object.get?_eq_some hv
      obtain ⟨w, hw, hdw⟩ := values d hd
      -- the entry of the other object is found again, because its keys are distinct
      rw [Object.get?_congr r key, Object.get?_of_mem distinct he] at hw
      cases hw
      exact ⟨d.2, hv, ih d hd (formed d hd) (formed' e he) hdw⟩

theorem same_trans {l m r : Tree} (hlm : l.same m = true) (hmr : m.same r = true) :
    l.same r = true := by
  induction l using shape_induction generalizing m r with
  | scalar s =>
    cases same_iff_matches.mp hlm with
    | scalar hlm =>
      cases same_iff_matches.mp hmr with
      | scalar hmr => exact same_iff_matches.mpr (.scalar (Scalar.same_trans hlm hmr))
      | sequence shape => cases shape
    | sequence shape => cases shape
  | set members =>
    cases same_iff_matches.mp hlm with
    | set hlm =>
      cases same_iff_matches.mp hmr with
      | set hmr => exact same_iff_matches.mpr (.set (Scalar.sameMembers_trans hlm hmr))
      | sequence shape => cases shape
    | sequence shape => cases shape
  | sequence l items shape ih =>
    cases same_iff_matches.mp hlm with
    | sequence shape' middle parts =>
      cases shape.symm.trans shape'
      cases same_iff_matches.mp hmr with
      | sequence middle' right parts' =>
        cases middle.symm.trans middle'
        refine same_iff_matches.mpr (.sequence shape right (forall₂_trans_of_mem parts parts' ?_))
        exact fun a ha b c hab hbc => ih a ha hab hbc
      | _ => cases middle
    | _ => cases shape
  | object l loop ih =>
    cases same_iff_matches.mp hlm with
    | sequence shape => cases shape
    | object keys values =>
      cases same_iff_matches.mp hmr with
      | sequence shape => cases shape
      | object keys' values' =>
        refine same_iff_matches.mpr (.object (Object.sameKeys_trans keys keys') fun e he => ?_)
        obtain ⟨v, hv, hev⟩ := values e he
        obtain ⟨d, hd, key, rfl⟩ := Object.get?_eq_some hv
        obtain ⟨w, hw, hdw⟩ := values' d hd
        exact ⟨w, Object.get?_congr _ key ▸ hw, ih e he hev hdw⟩

theorem isNull_of_same {l r : Tree} (h : l.same r = true) (null : r.isNull = true) :
    l.isNull = true := by
  cases same_iff_matches.mp h with
  | @scalar a b equal =>
    cases b with
    | null => cases a <;> simp_all [Scalar.same, isNull]
    | _ => cases null
  | sequence _ shape => cases r <;> simp_all [elements?, isNull]
  | _ => cases null

/-- What is not a number equals nothing, and what holds it does neither. -/
theorem hasNaN_of_same {t u : Tree} (h : t.same u = true) : t.hasNaN = false := by
  induction t using shape_induction generalizing u with
  | scalar s =>
    cases same_iff_matches.mp h with
    | scalar h => exact (Scalar.same_iff.mp h).1
    | sequence shape => cases shape
  | set members => rfl
  | sequence t items shape ih =>
    cases same_iff_matches.mp h with
    | sequence shape' _ parts =>
      cases shape.symm.trans shape'
      refine (hasNaN_elements shape).mpr fun a ha => ?_
      obtain ⟨i, hi, rfl⟩ := List.mem_iff_getElem.mp ha
      exact ih _ ha (parts.get hi (parts.length_eq ▸ hi))
    | _ => cases shape
  | object entries loop ih =>
    cases same_iff_matches.mp h with
    | sequence shape => cases shape
    | object _ values =>
      refine entriesHaveNaN_iff.mpr fun e he => ?_
      obtain ⟨_, _, equal⟩ := values e he
      exact ih e he equal

theorem same_self {t : Tree} (formed : t.wellFormed = true) (numbers : t.hasNaN = false) :
    t.same t = true := by
  induction t using shape_induction with
  | scalar s => exact same_iff_matches.mpr (.scalar (Scalar.same_self numbers))
  | set members => exact same_iff_matches.mpr (.set (Scalar.sameMembers_self members))
  | sequence t items shape ih =>
    have formed := (wellFormed_elements shape).mp formed
    have numbers := (hasNaN_elements shape).mp numbers
    refine same_iff_matches.mpr (.sequence shape shape (List.forall₂_same.mpr ?_))
    exact fun u hu => ih u hu (formed u hu) (numbers u hu)
  | object entries loop ih =>
    obtain ⟨distinct, formed⟩ := wellFormed_object.mp formed
    have numbers := entriesHaveNaN_iff.mp numbers
    refine same_iff_matches.mpr (.object (Object.sameKeys_self distinct) fun e he => ?_)
    exact ⟨e.2, Object.get?_of_mem distinct he, ih e he (formed e he) (numbers e he)⟩

end Tree

end ApiOutline
