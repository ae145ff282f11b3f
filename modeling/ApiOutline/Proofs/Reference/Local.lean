import ApiOutline.Proofs.Reference.Hereditary

/-! References into the components of a document. Where a document has no others, what its values
stand for depends on the components only, and whatever is reached is such a value again. -/
namespace ApiOutline

namespace Tree

def leadsInside : Tree → Bool
  | .scalar (.text r) => "#/components/".toList.isPrefixOf r.toList
  | _ => false

mutual

def isLocal : Tree → Bool
  | .scalar _ => true
  | .set _ => true
  | .pair a b => a.isLocal && b.isLocal
  | .list items _ => itemsAreLocal items
  | .object entries _ => entriesAreLocal entries

def itemsAreLocal : List Tree → Bool
  | [] => true
  | t :: ts => t.isLocal && itemsAreLocal ts

def entriesAreLocal : List (Scalar × Tree) → Bool
  | [] => true
  | (k, v) :: rest =>
    (k.identity != .text "$ref" || v.leadsInside) && v.isLocal && entriesAreLocal rest

end

theorem itemsAreLocal_iff {items : List Tree} :
    itemsAreLocal items = true ↔ ∀ t ∈ items, t.isLocal = true := by
  induction items with
  | nil => simp [itemsAreLocal]
  | cons t ts ih => simp [itemsAreLocal, ih]

theorem entriesAreLocal_iff {o : Object} : entriesAreLocal o = true ↔
    ∀ e ∈ o, (e.1.identity = .text "$ref" → e.2.leadsInside = true) ∧ e.2.isLocal = true := by
  induction o with
  | nil => simp [entriesAreLocal]
  | cons e es ih =>
    rw [List.forall_mem_cons, ← ih]
    simp [entriesAreLocal, imp_iff_not_or]

theorem isLocal_hereditary : Hereditary (·.isLocal = true) where
  null := rfl
  empty := rfl
  object := id
  entry h he := (entriesAreLocal_iff.mp h _ he).2
  item h ht := itemsAreLocal_iff.mp h _ ht

end Tree

namespace Object

open ApiOutline.Tree (entriesAreLocal entriesAreLocal_iff)

theorem leadsInside_of_get? {o : Object} {v : Tree} (h : entriesAreLocal o = true)
    (found : o.get? (.text "$ref") = some v) : v.leadsInside = true := by
  obtain ⟨e, member, same_key, rfl⟩ := get?_eq_some found
  exact (entriesAreLocal_iff.mp h e member).1 same_key

end Object

namespace Reference

open ApiOutline.Tree (entriesAreLocal isLocal_hereditary)

variable {document document' : Object} {t : Tree} {r : String}

theorem target_of_leadsInside (h : (Tree.text r).leadsInside = true) :
    ∃ rest, ∀ root, target root r = walk r root ("components" :: rest) := by
  obtain ⟨rest, whole⟩ := List.isPrefixOf_iff_prefix.mp h
  refine ⟨(rest.splitOn '/').map fun s => String.ofList (unescape s), fun root => ?_⟩
  have first : ("components".toList ++ '/' :: rest).splitOn '/' =
      "components".toList :: rest.splitOn '/' :=
    List.splitOn_append_cons_self_of_not_mem (by decide) rest
  have path : segments ("components".toList ++ '/' :: rest) =
      "components" :: (rest.splitOn '/').map fun s => String.ofList (unescape s) := by
    rw [segments, first, List.map_cons]
    rfl
  rw [← path, target, ← whole]
  rfl

/-- A reference into the components leads to one value in all documents that share them. -/
theorem target_congr
    (same : Object.get? document' (.text "components") = Object.get? document (.text "components"))
    (h : (Tree.text r).leadsInside = true) :
    target (.object document') r = target (.object document) r := by
  obtain ⟨rest, path⟩ := target_of_leadsInside h
  have first :
      step r (.object document') "components" = step r (.object document) "components" := by
    simp only [step, same]
  rw [path, path, walk, walk, first]

theorem of?_of_isLocal (h : t.isLocal = true) :
    of? t = none ∨ ∃ r, of? t = some (.text r) ∧ (Tree.text r).leadsInside = true := by
  cases reference : of? t with
  | none => exact .inl rfl
  | some v =>
    have inside : v.leadsInside = true := by
      cases t with
      | object o loop => exact Object.leadsInside_of_get? h reference
      | _ => cases reference
    cases v with
    | scalar s =>
      cases s with
      | text r => exact .inr ⟨r, rfl, inside⟩
      | _ => cases inside
    | _ => cases inside

variable [Machine]

/-- Chains of references from a local value are the same in all documents that share their
components with a local one. -/
theorem follow_congr
    (same : Object.get? document' (.text "components") = Object.get? document (.text "components"))
    (whole : entriesAreLocal document = true) {seen : List String} (h : t.isLocal = true) :
    follow (.object document') seen t = follow (.object document) seen t := by
  have document_local : (Tree.object document).isLocal = true := whole
  -- each reference that is followed leaves fewer texts of the local document to come to
  induction left : remaining (.object document) seen t using Nat.strongRecOn
    generalizing seen t with
  | ind n ih =>
    rcases of?_of_isLocal h with plain | ⟨r, reference, inside⟩
    · rw [follow_of_plain plain, follow_of_plain plain]
    · rw [follow_of_text reference, follow_of_text reference, target_congr same inside]
      split
      · rfl
      · rename_i fresh
        split
        · rename_i u reached
          have is_text : text? t = some r := by rw [text?, reference]; rfl
          exact ih _ (left ▸ remaining_lt is_text fresh reached)
            (isLocal_hereditary.target document_local reached) rfl
        · rfl

theorem resolve_congr
    (same : Object.get? document' (.text "components") = Object.get? document (.text "components"))
    (whole : entriesAreLocal document = true) (h : t.isLocal = true) :
    resolve (.object document') t = resolve (.object document) t :=
  follow_congr same whole h

end Reference

end ApiOutline
