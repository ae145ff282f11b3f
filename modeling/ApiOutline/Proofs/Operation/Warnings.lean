import ApiOutline.Proofs.Operation.Assignment
import ApiOutline.Proofs.Operation.Failures

/-! The warnings about operations. An operation that is left out leaves one warning that says so,
and nothing else in the notes of an operation could be taken for one. -/
namespace ApiOutline

namespace Note

/-- Whether a note is a warning that ends in the given words. What comes before them may quote any
text of the document. -/
def warns (words : String) (n : Note) : Bool :=
  n.level = .warning && words.toList.isSuffixOf n.message.toList

theorem warns_append (before words : String) : warns words ⟨.warning, before ++ words⟩ = true := by
  simp [warns, String.toList_append]

theorem warns_of_level {n : Note} (words : String) (other : n.level ≠ .warning) :
    warns words n = false := by
  simp [warns, other]

theorem warns_of_last {words tail : String} {a b : Char}
    (last : words.toList.getLast? = some a) (last' : tail.toList.getLast? = some b) (other : a ≠ b)
    (before : String) (level : Level) : warns words ⟨level, before ++ tail⟩ = false := by
  refine Bool.eq_false_iff.mpr fun warned => other ?_
  simp only [warns, Bool.and_eq_true, decide_eq_true_eq, List.isSuffixOf_iff_suffix,
    String.toList_append] at warned
  obtain ⟨front, whole⟩ := warned.2
  have ends := congrArg List.getLast? whole
  rw [List.getLast?_append, List.getLast?_append, last, last'] at ends
  simpa using ends

def leftOutWords : String := " has no valid response schema. Ignoring operation."

def replacedWords : String := " is already in use; the earlier operation is replaced"

theorem leftOutWords_last : leftOutWords.toList.getLast? = some '.' := by decide

theorem replacedWords_last : replacedWords.toList.getLast? = some 'd' := by decide

def isLeftOut : Note → Bool := warns leftOutWords

def isReplaced : Note → Bool := warns replacedWords

theorem isLeftOut_append (before : String) :
    isLeftOut ⟨.warning, before ++ leftOutWords⟩ = true ∧
      isReplaced ⟨.warning, before ++ leftOutWords⟩ = false :=
  ⟨warns_append before _, warns_of_last replacedWords_last leftOutWords_last (by decide) _ _⟩

theorem isReplaced_append (before : String) :
    isLeftOut ⟨.warning, before ++ replacedWords⟩ = false ∧
      isReplaced ⟨.warning, before ++ replacedWords⟩ = true :=
  ⟨warns_of_last leftOutWords_last replacedWords_last (by decide) _ _, warns_append before _⟩

theorem isReplaced_of_shown (id shown : String) :
    let n : Note := ⟨.warning,
      s!"Operation id '{id}' of {shown} is already in use; " ++ "the earlier operation is replaced"⟩
    n.isLeftOut = false ∧ n.isReplaced = true := by
  have words : " is already in use; " ++ "the earlier operation is replaced" = replacedWords := by
    decide
  have whole : s!"Operation id '{id}' of {shown} is already in use; "
      ++ "the earlier operation is replaced" =
        s!"Operation id '{id}' of {shown}" ++ replacedWords := by
    rw [← words, ← String.append_assoc]
    rfl
  rw [whole]
  exact isReplaced_append _

def IsOther (n : Note) : Prop := n.isLeftOut = false ∧ n.isReplaced = false

theorem isOther_of_level {n : Note} (other : n.level ≠ .warning) : n.IsOther :=
  ⟨warns_of_level _ other, warns_of_level _ other⟩

theorem isOther_of_debug (n : Note) (detail : n.level = .debug) : n.IsOther :=
  isOther_of_level (by simp [detail])

theorem isOther_of_last {tail : String} {c : Char} (last : tail.toList.getLast? = some c)
    (not_point : '.' ≠ c) (not_d : 'd' ≠ c) (before : String) (level : Level) :
    IsOther ⟨level, before ++ tail⟩ :=
  ⟨warns_of_last leftOutWords_last last not_point _ _,
    warns_of_last replacedWords_last last not_d _ _⟩

theorem countP_of_isOther {notes : List Note} (others : ∀ n ∈ notes, n.IsOther) :
    notes.countP isLeftOut = 0 ∧ notes.countP isReplaced = 0 := by
  constructor
  · exact List.countP_eq_zero.mpr fun n hn => by simp [(others n hn).1]
  · exact List.countP_eq_zero.mpr fun n hn => by simp [(others n hn).2]

end Note

namespace Operation

variable {s : Site} {c c' : Catalog}

theorem isOther_ignored (shown : String) : Note.IsOther
    ⟨.warning, s!"{shown} has a non-object request schema; ignoring the request body"⟩ :=
  Note.isOther_of_last (c := 'y') (by decide) (by decide) (by decide) _ _

structure Counts (notes : List Note) (leftOut replaced : Nat) : Prop where
  leftOut : notes.countP Note.isLeftOut = leftOut
  replaced : notes.countP Note.isReplaced = replaced

variable [Machine]

theorem counts_of_assignResponse {notes : List Note} {response : Option Definition}
    (run : assignResponse Catalog.assign s c = ⟨notes, .ok (response, c')⟩) :
    Counts notes (if response.isNone then 1 else 0) 0 := by
  obtain ⟨payload, _, answer⟩ := Logged.lift_bind_eq_mk.mp run
  split at answer
  · rename_i o loop object
    have outcome := Catalog.outcome_of_assign (congrArg Logged.result answer)
    obtain ⟨_, d, rfl, _⟩ := outcome.kept (object ▸ rfl)
    have details := c.leaves_assign payload.schema (some payload.hints)
    rw [answer] at details
    have others (n : Note) (hn : n ∈ notes) : n.IsOther := Note.isOther_of_debug n (details n hn)
    obtain ⟨left, replaced⟩ := Note.countP_of_isOther others
    exact ⟨left, replaced⟩
  · obtain ⟨later, none, rfl⟩ := Logged.note_bind_eq_mk.mp answer
    obtain ⟨rfl, same⟩ := Logged.pure_eq_mk.mp none
    cases same
    obtain ⟨left, replaced⟩ := Note.isLeftOut_append (quoted s)
    constructor
    · exact List.countP_cons_of_pos left
    · exact List.countP_cons_of_neg (Bool.eq_false_iff.mp replaced)

/-- Of all the notes of an operation only the one that leaves it out counts. -/
theorem counts_of_ofSite {options : Options} {method : Method} {endpoint : Object}
    {notes : List Note} {built : Option Operation}
    (run : ofSite Catalog.assign options s method endpoint c = ⟨notes, .ok (built, c')⟩) :
    Counts notes (if built.isNone then 1 else 0) 0 := by
  obtain ⟨before, request, required, middle, after, response, assigned_request, assigned_response,
    rfl, ending⟩ := ofSite_eq_mk run
  have others := (within_assignRequest s c Note.isOther_of_debug isOther_ignored).notes
  rw [assigned_request] at others
  obtain ⟨left, replaced⟩ := Note.countP_of_isOther others
  have counts := counts_of_assignResponse assigned_response
  have same : built.isNone = response.isNone := by
    rcases ending with ⟨rfl, rfl⟩ | ⟨o, rfl, _, _, _, rfl⟩ <;> rfl
  constructor
  · rw [List.countP_append, left, counts.leftOut, same, Nat.zero_add]
  · rw [List.countP_append, replaced, counts.replaced]

end Operation

end ApiOutline
