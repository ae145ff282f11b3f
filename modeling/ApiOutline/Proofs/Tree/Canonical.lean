import Mathlib.Algebra.Order.Field.Rat
import Mathlib.Data.List.Nodup
import ApiOutline.Proofs.Tree.Depth

/-! Canonical forms of the values that JSON has, infinities included. In a canonical form a number
is its exact value, whichever way it is stored, and entries are in the order of their keys. Two such
values are equal exactly if they have one canonical form, and a comparison tells so unless it has to
go too deep. -/
namespace ApiOutline

open Number

namespace Entries

variable {α : Type} {es fs : List (String × α)}

def sorted (es : List (String × α)) : List (String × α) := es.mergeSort fun d e => d.1 ≤ e.1

end Entries

/-! ### Canonical forms -/

/-- A value without regard to how its numbers are stored and in which order its entries stand.
Values of kinds that JSON does not have stand for themselves. -/
inductive Canonical where
  | null
  | bool (b : Bool)
  | number (value : ℚ)
  | infinite (negative : Bool)
  | text (s : String)
  | list (items : List Canonical)
  | object (entries : List (String × Canonical))
  | other (t : Tree)

def Number.Binary64.exactly (negative : Bool) (mantissa : Nat) (exponent : Int) : ℚ :=
  (if negative then -1 else 1) * mantissa * 2 ^ exponent

def Scalar.canonical : Scalar → Canonical
  | .null => .null
  | .bool b => .bool b
  | .int i => .number i
  | .float (.finite negative mantissa exponent) =>
    .number (Binary64.exactly negative mantissa exponent)
  | .float (.infinite negative) => .infinite negative
  | .text s => .text s
  | s => .other (.scalar s)

namespace Tree

mutual

def canonical : Tree → Canonical
  | .scalar s => s.canonical
  | .list items _ => .list (canonicalItems items)
  | .object entries _ => .object (Entries.sorted (canonicalEntries entries))
  | t => .other t

def canonicalItems : List Tree → List Canonical
  | [] => []
  | t :: ts => t.canonical :: canonicalItems ts

def canonicalEntries : List (Scalar × Tree) → List (String × Canonical)
  | [] => []
  | (k, v) :: rest => (((Tree.scalar k).text?).getD "", v.canonical) :: canonicalEntries rest

end

structure TextKeys (o : Object) : Prop where
  distinct : (o.map (·.1)).Nodup
  texts : ∀ e ∈ o, ∃ s, e.1 = .text s

/-- The values that JSON has, and infinities: null, truth values, texts, numbers of both kinds that
are numbers, lists, and objects under texts, each of which is given once. -/
inductive Plain : Tree → Prop where
  | null : Plain (.scalar .null)
  | bool (b : Bool) : Plain (.scalar (.bool b))
  | int (i : Int) : Plain (.scalar (.int i))
  | finite (negative : Bool) (mantissa : Nat) (exponent : Int) :
      Plain (.scalar (.float (.finite negative mantissa exponent)))
  | infinite (negative : Bool) : Plain (.scalar (.float (.infinite negative)))
  | text (s : String) : Plain (.scalar (.text s))
  | list {items : List Tree} {loop : Option Nat} : (∀ t ∈ items, Plain t) → Plain (.list items loop)
  | object {entries : Object} {loop : Option Nat} : TextKeys entries →
      (∀ e ∈ entries, Plain e.2) → Plain (.object entries loop)

end Tree

/-! ### Equality and canonical forms -/

namespace Tree

section Objects

variable {l r o : Object}

theorem TextKeys.identities (keys : TextKeys o) : (o.map (·.1.identity)).Nodup := by
  have apart : ((o.map (·.1)).map Scalar.identity).Nodup := by
    refine keys.distinct.map_on fun k hk k' hk' same => ?_
    obtain ⟨e, he, rfl⟩ := List.mem_map.mp hk
    obtain ⟨s, key⟩ := keys.texts e he
    rw [key] at same ⊢
    exact (Scalar.eq_text_of_identity same.symm).symm
  rwa [List.map_map] at apart

theorem TextKeys.get?_of_mem (keys : TextKeys o) {e : Scalar × Tree} (he : e ∈ o) :
    ∃ s, e.1 = .text s ∧ o.get? (.text s) = some e.2 := by
  obtain ⟨s, key⟩ := keys.texts e he
  exact ⟨s, key, key ▸ Object.get?_of_mem keys.identities he⟩

end Objects

/-! ### Values -/

open Machine (comparedLevels)

theorem plain_record {fields : List (String × Tree)} (distinct : (Entries.keys fields).Nodup)
    (values : ∀ e ∈ fields, Plain e.2) : Plain (.record fields) := by
  have keys : ((Tree.record fields).entriesOrNone.map (·.1)).Nodup := by
    rw [keys_record]
    exact distinct.map fun _ _ => Scalar.text.inj
  refine .object ⟨keys, fun e he => ?_⟩ fun e he => ?_
  · obtain ⟨field, _, rfl⟩ := List.mem_map.mp he
    exact ⟨field.1, rfl⟩
  · obtain ⟨field, member, rfl⟩ := List.mem_map.mp he
    exact values field member

end Tree

end ApiOutline
