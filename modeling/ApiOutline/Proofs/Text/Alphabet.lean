import ApiOutline.Proofs.Identifier
import ApiOutline.Proofs.Reference.Pointer
import ApiOutline.Proofs.Text.Pieces
import ApiOutline.Text.Half

/-! Texts and the characters that they are made of. Names are made of ASCII, and what a reference or
a path suggests for a name is made of its own characters and their capitals. -/
namespace ApiOutline.Text

variable {P : Char → Prop} {s t : String}

def MadeOf (P : Char → Prop) (s : String) : Prop := ∀ c ∈ s.toList, P c

/-- Whether ASCII belongs to a set of characters, and with a character its capitals. -/
structure IsAlphabet (P : Char → Prop) : Prop where
  ascii {c : Char} : c.toNat < 128 → P c
  upper {c d : Char} : P c → d ∈ upper c → P d

theorem MadeOf.append (first : MadeOf P s) (second : MadeOf P t) : MadeOf P (s ++ t) := by
  intro c member
  rw [String.toList_append, List.mem_append] at member
  exact member.elim (first c) (second c)

theorem MadeOf.intercalate {separator : String} {ss : List String} (between : MadeOf P separator)
    (each : ∀ s ∈ ss, MadeOf P s) : MadeOf P (separator.intercalate ss) := by
  intro c member
  rw [String.toList_intercalate] at member
  refine forall_mem_intercalate between (fun w hw => ?_) c member
  obtain ⟨s, inside, rfl⟩ := List.mem_map.mp hw
  exact each s inside

theorem toNat_lt_of_isAlphanum {c : Char} (h : c.isAlphanum = true) : c.toNat < 128 := by
  rcases Bool.or_eq_true_iff.mp h with letter | digit
  · rcases Identifier.isAlpha_iff.mp letter with upper | lower
    · have below : c.val.toNat ≤ 90 := (Identifier.isUpper_iff.mp upper).2
      exact Nat.lt_of_le_of_lt below (by decide)
    · have below : c.val.toNat ≤ 122 := (Identifier.isLower_iff.mp lower).2
      exact Nat.lt_of_le_of_lt below (by decide)
  · exact Nat.lt_of_le_of_lt (Char.isDigit_iff_toNat.mp digit).2 (by decide)

namespace IsAlphabet

variable (alphabet : IsAlphabet P)
include alphabet

theorem literal (ascii : s.toList.all (·.toNat < 128) = true) : MadeOf P s := fun c member =>
  alphabet.ascii (of_decide_eq_true (List.all_eq_true.mp ascii c member))

theorem guarded {cs : List Char} (kept : ∀ c ∈ cs, c.isAlphanum = true) :
    ∀ c ∈ Identifier.guarded cs, P c := by
  have letters : ∀ c ∈ cs, P c := fun c hc => alphabet.ascii (toNat_lt_of_isAlphanum (kept c hc))
  have underscore : P '_' := alphabet.ascii (by decide)
  cases cs with
  | nil => simpa [Identifier.guarded] using underscore
  | cons c cs =>
    simp only [Identifier.guarded]
    split
    · exact List.forall_mem_cons.mpr ⟨underscore, letters⟩
    · exact letters

theorem sanitize (s : String) : MadeOf P (Identifier.sanitize s) := by
  intro c member
  rw [Identifier.sanitize, String.toList_ofList] at member
  exact alphabet.guarded Identifier.joinWords_isAlphanum c member

theorem number (k : Nat) : MadeOf P (toString k) := fun _ member =>
  alphabet.ascii (toNat_lt_of_isAlphanum (Identifier.isAlphanum_of_isDigit
    (isDigit_of_mem_toString member)))

theorem referenceName {r : String} (h : MadeOf P r) : MadeOf P (Reference.name r) := by
  unfold Reference.name
  rw [List.getLastD_eq_getLast?]
  cases last : (Reference.segments r.toList).getLast? with
  | none => exact alphabet.literal rfl
  | some segment =>
    obtain ⟨piece, inside, rfl⟩ := List.mem_map.mp (List.mem_of_getLast? last)
    intro c member
    rw [Option.getD_some, String.toList_ofList] at member
    rcases Reference.mem_of_mem_unescape member with own | rfl | rfl
    · exact h c (mem_of_mem_splitOn inside own)
    · exact alphabet.ascii (by decide)
    · exact alphabet.ascii (by decide)

theorem ofPath {p : String} (h : MadeOf P p) : MadeOf P (Identifier.ofPath p) := by
  unfold Identifier.ofPath
  dsimp only
  split
  · exact alphabet.literal rfl
  · intro c member
    rw [String.toList_ofList] at member
    obtain ⟨segment, inside, member⟩ := List.mem_flatMap.mp member
    have own : ∀ c ∈ segment, P c := fun c hc =>
      h c (mem_of_mem_splitOn (List.mem_filter.mp inside).1 hc)
    cases segment with
    | nil => cases member
    | cons first rest =>
      rcases List.mem_append.mp member with capital | later
      · exact alphabet.upper (own first List.mem_cons_self) capital
      · exact own c (List.mem_cons_of_mem first later)

end IsAlphabet

/-! ### Characters that are no halves -/

end ApiOutline.Text
