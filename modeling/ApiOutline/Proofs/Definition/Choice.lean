import ApiOutline.Proofs.Definition.Outcome

/-! Which name a new type gets: the first of its hints that is sanitized to a free name, or else the
first one of all with the least number that makes it free. Nothing but this name is new in the
registry afterwards, and hints that say nothing leave the registry as it was. -/
namespace ApiOutline

open Identifier (sanitize)

def Hints.offered (hints : Option Hints) : List String := (hints.map Hints.candidates).getD []

namespace Registry

variable {r : Registry} {hints : Option Hints} {raw : String}

/-- The name that a registry has for candidates. -/
inductive Chooses (r : Registry) : List String → String → Prop where
  /-- The first candidate whose name is free gives it. -/
  | free {before after : List String} {c : String} : (∀ b ∈ before, sanitize b ∈ r.used) →
      sanitize c ∉ r.used → Chooses r (before ++ c :: after) (sanitize c)
  /-- If all of them are taken, the name of the first one is numbered. -/
  | numbered {first : String} {others : List String} {k : Nat} :
      (∀ c ∈ first :: others, sanitize c ∈ r.used) → 2 ≤ k →
      (∀ i, 2 ≤ i → i < k → sanitize first ++ toString i ∈ r.used) →
      sanitize first ++ toString k ∉ r.used →
      Chooses r (first :: others) (sanitize first ++ toString k)

theorem isUsed_iff {n : String} : r.isUsed n = true ↔ n ∈ r.used := List.contains_iff_mem

theorem isUsed_eq_false {n : String} : r.isUsed n = false ↔ n ∉ r.used := by
  rw [← isUsed_iff, Bool.not_eq_true]

theorem Chooses.not_mem_used {candidates : List String} {n : String}
    (chooses : r.Chooses candidates n) : n ∉ r.used := by
  cases chooses with
  | free _ free => exact free
  | numbered _ _ _ free => exact free

theorem chooses_of_proposal (proposed : r.proposal hints = .ok raw) :
    r.Chooses (Hints.offered hints) (sanitize raw) := by
  unfold proposal at proposed
  unfold Hints.offered
  cases candidates : (hints.map Hints.candidates).getD [] with
  | nil => simp only [candidates, reduceCtorEq] at proposed
  | cons first others =>
    simp only [candidates] at proposed
    split at proposed
    · rename_i c found
      cases proposed
      obtain ⟨free, before, after, split, taken⟩ := List.find?_eq_some_iff_append.mp found
      rw [split]
      refine .free (fun b hb => isUsed_iff.mp (by simpa using taken b hb)) ?_
      exact isUsed_eq_false.mp (by simpa using free)
    · rename_i none_free
      cases proposed
      have taken := List.find?_eq_none.mp none_free
      rw [Identifier.sanitize_numbered]
      refine .numbered (fun c hc => isUsed_iff.mp (by simpa using taken c hc))
        (le_freeNumber r (sanitize first) r.used.length 2) (fun i lower upper => ?_) ?_
      · exact isUsed_iff.mp
          (isUsed_below_freeNumber r (sanitize first) r.used.length 2 i lower upper)
      · exact isUsed_eq_false.mp (isUsed_freeNumber r (sanitize first) 2)

theorem exists_proposal (given : Hints.offered hints ≠ []) : ∃ raw, r.proposal hints = .ok raw := by
  cases proposed : r.proposal hints with
  | ok raw => exact ⟨raw, rfl⟩
  | error e => exact absurd (proposal_eq_error.mp proposed).2 given

theorem mem_used_register {m : String} :
    m ∈ (r.register raw).2.used ↔ m = sanitize raw ∨ m ∈ r.used := by
  simp only [register]
  split
  · rename_i used
    have known : sanitize raw ∈ r.used := isUsed_iff.mp used
    constructor
    · exact .inr
    · rintro (rfl | later)
      · exact known
      · exact later
  · simp [or_comm]

theorem get?_origins_register {m : String} : Entries.get? m (r.register raw).2.origins =
    if sanitize raw = m then some raw else Entries.get? m r.origins := by
  simp only [register, Entries.get?_insert, beq_iff_eq]

/-- Exactly if there are no hints no name is chosen, and then nothing is recorded. Otherwise a name
is chosen that was not used before. It is recorded, together with its origin, and all else is
kept. -/
theorem name_chosen_exactly (c : Catalog) (hints : Option Hints) :
    (Hints.offered hints = [] →
      c.names.choose hints = .error .nameless ∧
      Session.name hints c = (⟨[], .error .nameless⟩, c)) ∧
    (Hints.offered hints ≠ [] → ∃ n names,
      c.names.choose hints = .ok (n, names) ∧
      Session.name hints c = (⟨[], .ok n⟩, { c with names }) ∧
      c.names.Chooses (Hints.offered hints) n ∧ n ∉ c.names.used ∧
      (∀ m, m ∈ names.used ↔ m = n ∨ m ∈ c.names.used) ∧
      (∃ raw, Entries.get? n names.origins = some raw ∧ sanitize raw = n) ∧
      ∀ m, m ≠ n → Entries.get? m names.origins = Entries.get? m c.names.origins) := by
  constructor
  · intro nothing
    have refused : c.names.proposal hints = .error .nameless :=
      proposal_eq_error.mpr ⟨rfl, nothing⟩
    exact ⟨by rw [choose, refused]; rfl, Session.name_of_error refused⟩
  · intro given
    obtain ⟨raw, proposed⟩ := exists_proposal (r := c.names) given
    have chosen : c.names.choose hints = .ok (c.names.register raw) := by
      rw [choose, proposed]
      rfl
    have chooses := chooses_of_proposal proposed
    refine ⟨sanitize raw, (c.names.register raw).2, chosen, Session.name_of_ok proposed, chooses,
      chooses.not_mem_used, fun m => mem_used_register, ⟨raw, ?_, rfl⟩, fun m other => ?_⟩
    · rw [get?_origins_register, if_pos rfl]
    · rw [get?_origins_register, if_neg other.symm]

def cattery : Catalog := ⟨[], ⟨["_9Lives", "_9Lives2", "Cat", "_9Lives4"], [("Cat", "cat")]⟩⟩

theorem cattery_numbered :
    cattery.names.Chooses ["9-lives", "-cat"] "_9Lives3" ∧
    cattery.names.choose (some ⟨some "9-lives", none, some "-cat"⟩) =
      .ok ("_9Lives3", ⟨["_9Lives", "_9Lives2", "Cat", "_9Lives4", "_9Lives3"],
        [("Cat", "cat"), ("_9Lives3", "_9Lives3")]⟩) ∧
    cattery.names.choose (some Hints.empty) = .error .nameless := by
  obtain ⟨n, names, chosen, _, chooses, _⟩ :=
    (name_chosen_exactly cattery (some ⟨some "9-lives", none, some "-cat"⟩)).2 (by decide)
  have computed : cattery.names.choose (some ⟨some "9-lives", none, some "-cat"⟩) =
      .ok ("_9Lives3", ⟨["_9Lives", "_9Lives2", "Cat", "_9Lives4", "_9Lives3"],
        [("Cat", "cat"), ("_9Lives3", "_9Lives3")]⟩) := rfl
  cases chosen.symm.trans computed
  exact ⟨chooses, computed, ((name_chosen_exactly cattery (some Hints.empty)).1 rfl).1⟩

end Registry

end ApiOutline
