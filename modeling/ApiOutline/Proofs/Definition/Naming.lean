import ApiOutline.Definition.Registry
import ApiOutline.Proofs.Entries
import ApiOutline.Proofs.Identifier

/-! New names of types. The text that is proposed for one is sanitized to a name that was not used
before, so a registry never loses the origin of a name. -/
namespace ApiOutline.Registry

theorem numbered_injective {base : String} {k l : Nat}
    (h : base ++ toString k = base ++ toString l) : k = l := by
  have digits := congrArg String.toList h
  simp only [String.toList_append, List.append_cancel_left_eq] at digits
  have value := congrArg (fun ds => Nat.ofDigitChars 10 ds 0) digits
  simpa [Nat.toString_eq_ofList_toDigits] using value

/-! ### The least free number -/

theorem isUsed_below_freeNumber (r : Registry) (base : String) (fuel k : Nat) :
    ∀ i, k ≤ i → i < r.freeNumber base fuel k → r.isUsed (base ++ toString i) = true := by
  induction fuel generalizing k with
  | zero =>
    intro i lower upper
    simp only [freeNumber] at upper
    omega
  | succ fuel ih =>
    intro i lower upper
    simp only [freeNumber] at upper
    split at upper
    · rename_i used
      by_cases first : i = k
      · exact first ▸ used
      · exact ih (k + 1) i (by omega) upper
    · omega

theorem le_freeNumber (r : Registry) (base : String) (fuel k : Nat) :
    k ≤ r.freeNumber base fuel k := by
  induction fuel generalizing k with
  | zero => exact Nat.le_refl k
  | succ fuel ih =>
    simp only [freeNumber]
    split
    · exact Nat.le_of_succ_le (ih (k + 1))
    · exact Nat.le_refl k

theorem freeNumber_of_isUsed (r : Registry) (base : String) (fuel k : Nat)
    (used : r.isUsed (base ++ toString (r.freeNumber base fuel k)) = true) :
    r.freeNumber base fuel k = k + fuel := by
  induction fuel generalizing k with
  | zero => rfl
  | succ fuel ih =>
    simp only [freeNumber] at used ⊢
    split at used
    · rename_i taken
      rw [if_pos taken, ih (k + 1) used]
      omega
    · rename_i free
      exact absurd used free

/-- Among more numbers than there are used names one makes a name that is not used. -/
theorem isUsed_freeNumber (r : Registry) (base : String) (k : Nat) :
    r.isUsed (base ++ toString (r.freeNumber base r.used.length k)) = false := by
  refine Bool.eq_false_iff.mpr fun used => ?_
  have last := freeNumber_of_isUsed r base r.used.length k used
  let tried := (List.range' k (r.used.length + 1)).map (base ++ toString ·)
  have distinct : tried.Nodup :=
    List.Pairwise.map _ (fun i j different same => different (numbered_injective same))
      List.nodup_range'
  have all_used : tried ⊆ r.used := by
    intro n hn
    obtain ⟨i, hi, rfl⟩ := List.mem_map.mp hn
    obtain ⟨lower, upper⟩ := List.mem_range'_1.mp hi
    have : r.isUsed (base ++ toString i) = true := by
      by_cases reached : i = k + r.used.length
      · rw [reached, ← last]
        exact used
      · exact isUsed_below_freeNumber r base r.used.length k i lower (by omega)
    simpa only [isUsed, List.contains_iff_mem] using this
  have := distinct.length_le_of_subset all_used
  simp only [tried, List.length_map, List.length_range'] at this
  omega

/-! ### Proposals -/

theorem proposal_eq_error {r : Registry} {hints : Option Hints} {e : Failure} :
    r.proposal hints = .error e ↔ e = .nameless ∧ (hints.map Hints.candidates).getD [] = [] := by
  unfold proposal
  cases candidates : (hints.map Hints.candidates).getD [] with
  | nil => simp [eq_comm]
  | cons first rest =>
    simp only [reduceCtorEq, and_false, iff_false]
    split <;> simp

theorem isUsed_of_proposal {r : Registry} {hints : Option Hints} {raw : String}
    (h : r.proposal hints = .ok raw) : r.isUsed (Identifier.sanitize raw) = false := by
  unfold proposal at h
  cases candidates : (hints.map Hints.candidates).getD [] with
  | nil => simp only [candidates, reduceCtorEq] at h
  | cons first rest =>
    simp only [candidates] at h
    split at h
    · rename_i c found
      cases h
      simpa using List.find?_some found
    · cases h
      rw [Identifier.sanitize_numbered]
      exact isUsed_freeNumber r (Identifier.sanitize first) 2

/-! ### Registries -/

/-- Names and their origins belong together: the names are distinct, each of them has one origin,
and it is what its origin is sanitized to. -/
structure Coupled (r : Registry) : Prop where
  keys : Entries.keys r.origins = r.used
  distinct : r.used.Nodup
  origin : ∀ e ∈ r.origins, Identifier.sanitize e.2 = e.1

theorem empty_coupled : empty.Coupled := ⟨rfl, List.nodup_nil, by simp [empty]⟩

theorem Coupled.register_eq {r : Registry} (coupled : r.Coupled) {raw : String}
    (free : r.isUsed (Identifier.sanitize raw) = false) :
    r.register raw = (Identifier.sanitize raw, ⟨r.used ++ [Identifier.sanitize raw],
      r.origins ++ [(Identifier.sanitize raw, raw)]⟩) := by
  have absent : Identifier.sanitize raw ∉ Entries.keys r.origins := by
    rw [coupled.keys]
    simpa [isUsed] using free
  simp only [register, free, Entries.insert_of_not_mem absent, Bool.false_eq_true, if_false]

theorem Coupled.register {r : Registry} (coupled : r.Coupled) {raw : String}
    (free : r.isUsed (Identifier.sanitize raw) = false) : (r.register raw).2.Coupled := by
  rw [coupled.register_eq free]
  refine ⟨?_, ?_, ?_⟩
  · have keys := coupled.keys
    simp only [Entries.keys] at keys
    simp only [Entries.keys, List.map_append, keys, List.map_cons, List.map_nil]
  · refine List.nodup_append.mpr ⟨coupled.distinct, by simp, ?_⟩
    intro n hn m hm same
    cases List.mem_singleton.mp hm
    rw [same] at hn
    simp [isUsed, hn] at free
  · intro e he
    rcases List.mem_append.mp he with he | he
    · exact coupled.origin e he
    · cases List.mem_singleton.mp he
      rfl

end ApiOutline.Registry
