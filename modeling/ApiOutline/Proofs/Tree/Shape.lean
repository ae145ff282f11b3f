import Mathlib.Data.List.Basic
import ApiOutline.Proofs.Scalar

/-! The shape of documents: induction on their parts, look-up in their objects, and the two
conditions that equality of documents depends on. Objects of a well formed document tell their keys
apart, as in every document that is read. -/
namespace ApiOutline

namespace Object

theorem get?_eq_some {o : Object} {k : Scalar} {v : Tree} (h : o.get? k = some v) :
    ∃ e ∈ o, e.1.identity = k.identity ∧ e.2 = v := by
  obtain ⟨e, he, rfl⟩ := Option.map_eq_some_iff.mp h
  exact ⟨e, List.mem_of_find?_eq_some he, by simpa using List.find?_some he, rfl⟩

theorem get?_congr (o : Object) {k k' : Scalar} (same_key : k.identity = k'.identity) :
    o.get? k = o.get? k' := by
  simp only [get?, same_key]

theorem get?_of_mem {o : Object} (distinct : (o.map (·.1.identity)).Nodup) {e : Scalar × Tree}
    (he : e ∈ o) : o.get? e.1 = some e.2 := by
  induction o with
  | nil => cases he
  | cons d rest ih =>
    obtain ⟨absent, distinct⟩ := List.nodup_cons.mp distinct
    rcases List.mem_cons.mp he with rfl | he
    · simp [get?]
    · have other : d.1.identity ≠ e.1.identity := fun same_key =>
        absent (List.mem_map.mpr ⟨e, he, same_key.symm⟩)
      simpa [get?, List.find?_cons, other] using ih distinct he

end Object

namespace Tree

def elements? : Tree → Option (List Tree)
  | .pair a b => some [a, b]
  | .list items _ => some items
  | _ => none

theorem eq_null_of_isNull {t : Tree} (null : t.isNull = true) : t = .null := by
  unfold isNull at null
  split at null
  · rfl
  · cases null

theorem eq_text_of_text? {t : Tree} {s : String} (h : t.text? = some s) : t = .text s := by
  unfold text? at h
  split at h
  · cases h
    rfl
  · cases h

theorem text?_of_compound {t : Tree} (compound : ∀ s, t ≠ .scalar s) : t.text? = none := by
  cases t with
  | scalar s => exact absurd rfl (compound s)
  | _ => rfl

theorem keys_record (fields : List (String × Tree)) :
    (record fields).entriesOrNone.map (·.1) = (Entries.keys fields).map .text := by
  simp [record, entriesOrNone, object?, Entries.keys]

theorem get?_record {fields : List (String × Tree)} (distinct : (Entries.keys fields).Nodup)
    {e : String × Tree} (member : e ∈ fields) :
    Object.get? (record fields).entriesOrNone (.text e.1) = some e.2 := by
  let entry (f : String × Tree) : Scalar × Tree := (.text f.1, f.2)
  have identities : ((fields.map entry).map (·.1.identity)).Nodup := by
    rw [List.map_map]
    refine List.Pairwise.map _ ?_ (List.pairwise_map.mp distinct)
    intro f f' different same
    cases f
    cases f'
    exact different (by simpa [entry, Scalar.identity] using same)
  exact Object.get?_of_mem identities (List.mem_map_of_mem (f := entry) member)

/-- Induction on a document, with pairs and lists as one case. -/
theorem shape_induction {P : Tree → Prop} (scalar : ∀ s, P (.scalar s)) (set : ∀ m, P (.set m))
    (sequence : ∀ t items, t.elements? = some items → (∀ u ∈ items, P u) → P t)
    (object : ∀ entries loop, (∀ e ∈ entries, P e.2) → P (.object entries loop)) : ∀ t, P t
  | .scalar s => scalar s
  | .set m => set m
  | .pair a b => by
    have left := shape_induction scalar set sequence object a
    have right := shape_induction scalar set sequence object b
    refine sequence _ [a, b] rfl fun u hu => ?_
    rcases List.mem_pair.mp hu with rfl | rfl
    · exact left
    · exact right
  | .list items _ => sequence _ items rfl fun u _ => shape_induction scalar set sequence object u
  | .object entries loop => object entries loop fun e he =>
    have : sizeOf e.2 < sizeOf entries := by
      have smaller := List.sizeOf_lt_of_mem he
      have parts : sizeOf e = 1 + sizeOf e.1 + sizeOf e.2 := by cases e; rfl
      omega
    shape_induction scalar set sequence object e.2

mutual

def wellFormed : Tree → Bool
  | .scalar _ => true
  | .set _ => true
  | .pair a b => a.wellFormed && b.wellFormed
  | .list items _ => wellFormedItems items
  | .object entries _ => decide (entries.map (·.1.identity)).Nodup && wellFormedEntries entries

def wellFormedItems : List Tree → Bool
  | [] => true
  | t :: ts => t.wellFormed && wellFormedItems ts

def wellFormedEntries : List (Scalar × Tree) → Bool
  | [] => true
  | (_, v) :: rest => v.wellFormed && wellFormedEntries rest

end

mutual

/-- Some value is not a number. Keys and members of sets do not count, as these are told apart by
their origins. -/
def hasNaN : Tree → Bool
  | .scalar s => s.isNaN
  | .set _ => false
  | .pair a b => a.hasNaN || b.hasNaN
  | .list items _ => itemsHaveNaN items
  | .object entries _ => entriesHaveNaN entries

def itemsHaveNaN : List Tree → Bool
  | [] => false
  | t :: ts => t.hasNaN || itemsHaveNaN ts

def entriesHaveNaN : List (Scalar × Tree) → Bool
  | [] => false
  | (_, v) :: rest => v.hasNaN || entriesHaveNaN rest

end

theorem wellFormedItems_iff {items : List Tree} :
    wellFormedItems items = true ↔ ∀ t ∈ items, t.wellFormed = true := by
  induction items with
  | nil => simp [wellFormedItems]
  | cons t ts ih => simp [wellFormedItems, ih]

theorem wellFormedEntries_iff {entries : Object} :
    wellFormedEntries entries = true ↔ ∀ e ∈ entries, e.2.wellFormed = true := by
  induction entries with
  | nil => simp [wellFormedEntries]
  | cons e es ih => simp [wellFormedEntries, ih]

theorem itemsHaveNaN_iff {items : List Tree} :
    itemsHaveNaN items = false ↔ ∀ t ∈ items, t.hasNaN = false := by
  induction items with
  | nil => simp [itemsHaveNaN]
  | cons t ts ih => simp [itemsHaveNaN, ih]

theorem entriesHaveNaN_iff {entries : Object} :
    entriesHaveNaN entries = false ↔ ∀ e ∈ entries, e.2.hasNaN = false := by
  induction entries with
  | nil => simp [entriesHaveNaN]
  | cons e es ih => simp [entriesHaveNaN, ih]

theorem wellFormed_object {o : Object} {loop : Option Nat} :
    (Tree.object o loop).wellFormed = true ↔
      (o.map (·.1.identity)).Nodup ∧ ∀ e ∈ o, e.2.wellFormed = true := by
  simp only [wellFormed, Bool.and_eq_true, decide_eq_true_eq, wellFormedEntries_iff]

theorem wellFormed_elements {t : Tree} {items : List Tree} (h : t.elements? = some items) :
    t.wellFormed = true ↔ ∀ u ∈ items, u.wellFormed = true := by
  cases t with
  | pair a b => cases h; simp [wellFormed]
  | list => cases h; exact wellFormedItems_iff
  | _ => cases h

theorem hasNaN_elements {t : Tree} {items : List Tree} (h : t.elements? = some items) :
    t.hasNaN = false ↔ ∀ u ∈ items, u.hasNaN = false := by
  cases t with
  | pair a b => cases h; simp [hasNaN]
  | list => cases h; exact itemsHaveNaN_iff
  | _ => cases h

end Tree

end ApiOutline
