import ApiOutline.Proofs.Identifier
import ApiOutline.Proofs.Text.Pieces

/-! The words of a text as its longest runs of letters and digits. A name spells these runs one
after another, so it has the same letters and digits as its text, in the same order. -/
namespace ApiOutline.Identifier

structure Run where
  start : Nat
  word : List Char
  deriving DecidableEq, Repr

/-- The longest runs of letters and digits: on neither side can one more character be added. -/
inductive IsRun : List Char → Run → Prop where
  | within {before word after : List Char} :
      word ≠ [] → (∀ c ∈ word, c.isAlphanum = true) →
      (∀ c ∈ before.getLast?, c.isAlphanum = false) → (∀ c ∈ after.head?, c.isAlphanum = false) →
      IsRun (before ++ word ++ after) ⟨before.length, word⟩

namespace Run

def shift (n : Nat) (r : Run) : Run := ⟨n + r.start, r.word⟩

def raised (r : Run) : List Char := r.word.modifyHead Char.toUpper

def spelled (r : Run) : List Char := if r.start = 0 then r.word else r.raised

end Run

def ofPiece (w : List Char) : List Run := if w = [] then [] else [⟨0, w⟩]

def ofPieces : List (List Char) → List Run
  | [] => []
  | w :: ws => ofPiece w ++ (ofPieces ws).map (Run.shift (w.length + 1))

def runs (cs : List Char) : List Run := ofPieces (cs.splitOnP fun c => !c.isAlphanum)

def spelling (rs : List Run) : List Char :=
  let joined := rs.flatMap Run.spelled
  if rs = [] then ['_'] else if joined.head?.any Char.isDigit then '_' :: joined else joined

/-! ### Texts, piece by piece -/

variable {w rest : List Char} {separator : Char} {r : Run}

theorem runs_word (letters : ∀ c ∈ w, c.isAlphanum = true) : runs w = ofPiece w := by
  have single : w.splitOnP (fun c => !c.isAlphanum) = [w] := by
    apply List.splitOnP_eq_singleton
    intro c hc
    simp [letters c hc]
  simp [runs, single, ofPieces]

theorem runs_separated (letters : ∀ c ∈ w, c.isAlphanum = true)
    (other : separator.isAlphanum = false) :
    runs (w ++ separator :: rest) =
      ofPiece w ++ (runs rest).map (Run.shift (w.length + 1)) := by
  have first : (w ++ separator :: rest).splitOnP (fun c => !c.isAlphanum) =
      w :: rest.splitOnP fun c => !c.isAlphanum := by
    apply List.splitOnP_append_cons_of_forall_mem
    · intro c hc
      simp [letters c hc]
    · simp [other]
  simp only [runs, first, ofPieces]

theorem runs_induction {P : List Char → Prop}
    (word : ∀ w, (∀ c ∈ w, c.isAlphanum = true) → P w)
    (separated : ∀ w separator rest, (∀ c ∈ w, c.isAlphanum = true) →
      separator.isAlphanum = false → P rest → P (w ++ separator :: rest)) (cs : List Char) :
    P cs := by
  induction cs using Text.pieces_induction (p := fun c : Char => !c.isAlphanum) with
  | piece w letters => exact word w (by simpa using letters)
  | separated w separator rest letters other ih =>
    exact separated w separator rest (by simpa using letters) (by simpa using other) ih

theorem mem_ofPiece : r ∈ ofPiece w ↔ w ≠ [] ∧ r = ⟨0, w⟩ := by
  unfold ofPiece
  split <;> simp_all

/-! ### Which runs a text has -/

theorem takeWhile_of_letters {after : List Char} (letters : ∀ c ∈ w, c.isAlphanum = true)
    (ends : ∀ c ∈ after.head?, c.isAlphanum = false) :
    (w ++ after).takeWhile Char.isAlphanum = w := by
  rw [List.takeWhile_append_of_pos letters]
  cases after with
  | nil => simp
  | cons c cs => simp [ends c rfl]

theorem getLast?_separated (w before : List Char) (other : separator.isAlphanum = false) :
    (∀ c ∈ (w ++ separator :: before).getLast?, c.isAlphanum = false) ↔
      ∀ c ∈ before.getLast?, c.isAlphanum = false := by
  cases last : before.getLast? <;> simp [List.getLast?_append, List.getLast?_cons, last, other]

theorem eq_nil_of_letters {before : List Char} (letters : ∀ c ∈ before, c.isAlphanum = true)
    (ends : ∀ c ∈ before.getLast?, c.isAlphanum = false) : before = [] := by
  cases last : before.getLast? with
  | none => exact List.getLast?_eq_none_iff.mp last
  | some c =>
    have kept := letters c (List.mem_of_getLast? last)
    rw [ends c last] at kept
    cases kept

theorem isRun_first {after : List Char} (given : w ≠ []) (letters : ∀ c ∈ w, c.isAlphanum = true)
    (ends : ∀ c ∈ after.head?, c.isAlphanum = false) : IsRun (w ++ after) ⟨0, w⟩ := by
  have first : IsRun ([] ++ w ++ after) ⟨0, w⟩ := .within given letters (by simp) ends
  exact first

theorem IsRun.behind (other : separator.isAlphanum = false) (later : IsRun rest r) :
    IsRun (w ++ separator :: rest) (r.shift (w.length + 1)) := by
  cases later with
  | @within before word after given letters starts ends =>
    have starts := (getLast?_separated w before other).mpr starts
    have whole := IsRun.within given letters starts ends
    simpa [Run.shift, Nat.add_comm, Nat.add_left_comm, Nat.add_assoc] using whole

theorem isRun_word (letters : ∀ c ∈ w, c.isAlphanum = true) : IsRun w r ↔ r ∈ ofPiece w := by
  rw [mem_ofPiece]
  constructor
  · rintro ⟨given, word_letters, starts, ends⟩
    rename_i before word after
    have nothing : before = [] := eq_nil_of_letters
      (fun c hc => letters c (by simp [hc])) starts
    subst nothing
    have rest : after = [] := by
      cases after with
      | nil => rfl
      | cons c cs =>
        have kept := letters c (by simp)
        rw [ends c rfl] at kept
        cases kept
    subst rest
    simpa using given
  · rintro ⟨given, rfl⟩
    have first : IsRun (w ++ []) ⟨0, w⟩ := isRun_first given letters (by simp)
    rwa [List.append_nil] at first

theorem isRun_separated (letters : ∀ c ∈ w, c.isAlphanum = true)
    (other : separator.isAlphanum = false) :
    IsRun (w ++ separator :: rest) r ↔
      r ∈ ofPiece w ∨ ∃ later, IsRun rest later ∧ later.shift (w.length + 1) = r := by
  rw [mem_ofPiece]
  constructor
  · generalize whole : w ++ separator :: rest = cs
    rintro ⟨given, word_letters, starts, ends⟩
    rename_i before word after
    rw [List.append_assoc] at whole
    rcases List.append_eq_append_iff.mp whole with ⟨between, rfl, later⟩ | ⟨between, rfl, first⟩
    · -- The run stands behind the separator, or else it would hold it.
      right
      cases between with
      | nil =>
        cases word with
        | nil => exact absurd rfl given
        | cons c word =>
          cases later
          rw [word_letters separator List.mem_cons_self] at other
          cases other
      | cons c between =>
        rw [List.cons_append, List.cons.injEq] at later
        obtain ⟨rfl, rfl⟩ := later
        have starts := (getLast?_separated w between other).mp starts
        refine ⟨⟨between.length, word⟩, ?_, ?_⟩
        · rw [← List.append_assoc]
          exact .within given word_letters starts ends
        · simp [Run.shift]
          omega
    · left
      have nothing : before = [] := eq_nil_of_letters
        (fun c hc => letters c (by simp [hc])) starts
      subst nothing
      have same : word = between := by
        rw [← takeWhile_of_letters word_letters ends, first]
        exact takeWhile_of_letters letters (by simp [other])
      subst same
      exact ⟨given, rfl⟩
  · rintro (⟨given, rfl⟩ | ⟨later, inside, rfl⟩)
    · exact isRun_first given letters (by simp [other])
    · exact inside.behind other

theorem mem_runs (cs : List Char) : ∀ r, r ∈ runs cs ↔ IsRun cs r := by
  induction cs using runs_induction with
  | word w letters =>
    intro r
    rw [runs_word letters, isRun_word letters]
  | separated w separator rest letters other ih =>
    intro r
    rw [runs_separated letters other, isRun_separated letters other, List.mem_append,
      List.mem_map]
    simp only [ih]

theorem pairwise_runs (cs : List Char) : (runs cs).Pairwise (·.start < ·.start) := by
  induction cs using runs_induction with
  | word w letters =>
    rw [runs_word letters, ofPiece]
    split <;> simp
  | separated w separator rest letters other ih =>
    rw [runs_separated letters other, List.pairwise_append]
    refine ⟨?_, ?_, ?_⟩
    · unfold ofPiece
      split <;> simp
    · rw [List.pairwise_map]
      apply ih.imp
      intro r r' before
      simp only [Run.shift]
      omega
    · intro r first r' later
      obtain ⟨_, rfl⟩ := mem_ofPiece.mp first
      obtain ⟨r, _, rfl⟩ := List.mem_map.mp later
      simp only [Run.shift]
      omega

/-! ### How runs are spelled -/

theorem joinWords_true_word (letters : ∀ c ∈ w, c.isAlphanum = true) :
    joinWords true w = (ofPiece w).flatMap Run.raised := by
  cases w with
  | nil => rfl
  | cons c w =>
    have first := letters c List.mem_cons_self
    have others := joinWords_of_isAlphanum fun d hd => letters d (List.mem_cons_of_mem c hd)
    simp [joinWords, first, others, ofPiece, Run.raised]

theorem joinWords_true (cs : List Char) : joinWords true cs = (runs cs).flatMap Run.raised := by
  induction cs using runs_induction with
  | word w letters => rw [runs_word letters, joinWords_true_word letters]
  | separated w separator rest letters other ih =>
    rw [joinWords_separated other, runs_separated letters other, joinWords_true_word letters, ih,
      List.flatMap_append, List.flatMap_map]
    rfl

theorem joinWords_false (cs : List Char) : joinWords false cs = (runs cs).flatMap Run.spelled := by
  have first {w : List Char} : (ofPiece w).flatMap Run.spelled = w := by
    unfold ofPiece
    split <;> simp_all [Run.spelled]
  induction cs using runs_induction with
  | word w letters => rw [runs_word letters, joinWords_of_isAlphanum letters, first]
  | separated w separator rest letters other _ =>
    rw [joinWords_separated other, joinWords_of_isAlphanum letters, joinWords_true,
      runs_separated letters other, List.flatMap_append, List.flatMap_map, first]
    have later : ∀ r, (Run.shift (w.length + 1) r).spelled = r.raised := by
      intro r
      simp [Run.spelled, Run.raised, Run.shift]
    simp only [later]

theorem spelled_ne_nil {cs : List Char} (inside : r ∈ runs cs) : r.spelled ≠ [] := by
  have given : r.word ≠ [] := by
    cases (mem_runs cs r).mp inside with
    | within given => exact given
  unfold Run.spelled Run.raised
  split
  · exact given
  · simpa using given

theorem guarded_joinWords (cs : List Char) : guarded (joinWords false cs) = spelling (runs cs) := by
  rw [joinWords_false]
  unfold spelling
  cases whole : runs cs with
  | nil => rfl
  | cons r rs =>
    have given := spelled_ne_nil (whole ▸ List.mem_cons_self : r ∈ runs cs)
    cases first : r.spelled with
    | nil => exact absurd first given
    | cons c word => simp [List.flatMap_cons, first, guarded]

/-! ### What a name keeps -/

theorem toLower_toUpper (c : Char) : c.toUpper.toLower = c.toLower := by
  by_cases lower : c.isLower = true
  · have inside : 97 ≤ c.val.toNat ∧ c.val.toNat ≤ 122 := isLower_iff.mp lower
    have not_upper : ¬ ('A'.val ≤ c.val ∧ c.val ≤ 'Z'.val) := by
      rintro ⟨_, below⟩
      have below : c.val.toNat ≤ 90 := below
      omega
    have back : ('A'.val - 'a'.val) + ('a'.val - 'A'.val) = 0 := by decide
    have upper := isUpper_iff.mp (isUpper_toUpper lower)
    delta Char.toLower
    rw [dif_pos upper, dif_neg not_upper]
    apply Char.ext
    show c.toUpper.val + ('a'.val - 'A'.val) = c.val
    rw [val_toUpper lower, UInt32.add_assoc, back, UInt32.add_zero]
  · rw [toUpper_of_not_isLower lower]

theorem toLower_joinWords (raise : Bool) (cs : List Char) :
    (joinWords raise cs).map Char.toLower = (cs.filter Char.isAlphanum).map Char.toLower := by
  induction cs generalizing raise with
  | nil => rfl
  | cons c cs ih =>
    unfold joinWords
    split
    · rename_i kept
      rw [List.map_cons, ih, List.filter_cons_of_pos kept, List.map_cons]
      split
      · rw [toLower_toUpper]
      · rfl
    · rename_i other
      rw [ih, List.filter_cons_of_neg other]

theorem filter_guarded {cs : List Char} (kept : ∀ c ∈ cs, c.isAlphanum = true) :
    (guarded cs).filter Char.isAlphanum = cs := by
  have all := List.filter_eq_self.mpr kept
  have underscore : ('_' : Char).isAlphanum = false := by decide
  cases cs with
  | nil => simp [guarded, underscore]
  | cons c cs =>
    simp only [guarded]
    split
    · rw [List.filter_cons_of_neg (by simp [underscore]), all]
    · exact all

/-- A name is what the runs of its text spell, and these are all the runs that there are, from the
first to the last. Apart from their case, it keeps all letters and digits in their order. -/
theorem sanitize_spells_runs (s : String) :
    (∀ r, r ∈ runs s.toList ↔ IsRun s.toList r) ∧
    (runs s.toList).Pairwise (·.start < ·.start) ∧
    (sanitize s).toList = spelling (runs s.toList) ∧
    ((sanitize s).toList.filter Char.isAlphanum).map Char.toLower =
      (s.toList.filter Char.isAlphanum).map Char.toLower := by
  have name : (sanitize s).toList = guarded (joinWords false s.toList) := by
    rw [sanitize, String.toList_ofList]
  refine ⟨mem_runs s.toList, pairwise_runs s.toList, ?_, ?_⟩
  · rw [name, guarded_joinWords]
  · rw [name, filter_guarded joinWords_isAlphanum, toLower_joinWords]

example : (sanitize "--9-lives of_the catB ").toList =
    spelling [⟨2, ['9']⟩, ⟨4, "lives".toList⟩, ⟨10, "of".toList⟩, ⟨13, "the".toList⟩,
      ⟨17, "catB".toList⟩] := by decide

end ApiOutline.Identifier
