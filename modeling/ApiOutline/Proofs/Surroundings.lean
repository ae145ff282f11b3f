import ApiOutline.Surroundings
import ApiOutline.Proofs.Log

/-! Why a file cannot be read: a path to it is too long to be looked up, or the bytes of the file
are not in UTF-8. A file that is not there is no failure. -/
namespace ApiOutline.Surroundings

variable {s : Surroundings} {p : Path} {f : Failure}

def IsLong (p : Path) : Prop :=
  longestPath < p.toText.utf8ByteSize ∨ ∃ name ∈ p.steps, longestName < name.utf8ByteSize

theorem follow_eq_error {here steps : List String} (h : s.follow here steps = .error f) :
    f = .malformed .longName ∧ ∃ name ∈ steps, longestName < name.utf8ByteSize := by
  induction steps generalizing here with
  | nil => cases h
  | cons step rest ih =>
    have later {next : List String} (h : s.follow next rest = .error f) :
        f = .malformed .longName ∧ ∃ name ∈ step :: rest, longestName < name.utf8ByteSize := by
      obtain ⟨same, long, member, size⟩ := ih h
      exact ⟨same, long, List.mem_cons_of_mem step member, size⟩
    unfold follow at h
    split at h
    · cases h
    · split at h
      · rename_i size
        cases h
        exact ⟨rfl, step, List.mem_cons_self, size⟩
      · split at h
        · exact later h
        · exact later h

theorem file?_eq_error (h : s.file? p = .error f) : f = .malformed .longName ∧ IsLong p := by
  unfold file? at h
  split at h
  · cases h
  · split at h
    · rename_i size
      cases h
      exact ⟨rfl, .inl size⟩
    · obtain h | ⟨steps, _, h⟩ := Except.bind_eq_error.mp h
      · obtain ⟨same, long⟩ := follow_eq_error h
        exact ⟨same, .inr long⟩
      · cases steps <;> cases h

/-- Why the text of a file cannot be read. -/
inductive Unreadable (s : Surroundings) (p : Path) : Malformed → Prop where
  | longName : s.file? p = .error (.malformed .longName) → Unreadable s p .longName
  | notUtf8 {bytes : ByteArray} : s.file? p = .ok (some bytes) → String.fromUTF8? bytes = none →
      Unreadable s p .notUtf8

theorem text?_eq_error :
    s.text? p = .error f ↔ ∃ what, f = .malformed what ∧ s.Unreadable p what := by
  constructor
  · intro h
    obtain h | ⟨bytes, file, h⟩ := Except.bind_eq_error.mp h
    · obtain ⟨rfl, _⟩ := file?_eq_error h
      exact ⟨.longName, rfl, .longName h⟩
    · cases bytes with
      | none => cases h
      | some bytes =>
        dsimp only at h
        split at h
        · cases h
        · rename_i broken
          cases h
          exact ⟨.notUtf8, rfl, .notUtf8 file broken⟩
  · rintro ⟨_, rfl, unreadable⟩
    cases unreadable with
    | longName file => exact Except.bind_eq_error.mpr (.inl file)
    | notUtf8 file broken =>
      refine Except.bind_eq_error.mpr (.inr ⟨_, file, ?_⟩)
      simp only [broken]

end ApiOutline.Surroundings
