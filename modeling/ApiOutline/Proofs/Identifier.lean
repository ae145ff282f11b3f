import ApiOutline.Identifier
import ApiOutline.Proofs.Text.Integer

/-! Identifiers as a set of names. Every text is sanitized to a name, and a name is sanitized to
itself, also when digits follow it. -/
namespace ApiOutline.Identifier

/-- The names `_`, `_` before a digit and more letters and digits, and a letter before more letters
and digits. -/
inductive IsName : List Char → Prop where
  | blank : IsName ['_']
  | digit {d : Char} {rest : List Char} :
      d.isDigit = true → (∀ c ∈ rest, c.isAlphanum = true) → IsName ('_' :: d :: rest)
  | letter {a : Char} {rest : List Char} :
      a.isAlpha = true → (∀ c ∈ rest, c.isAlphanum = true) → IsName (a :: rest)

theorem isAlphanum_of_isDigit {c : Char} (h : c.isDigit = true) : c.isAlphanum = true := by
  simp only [Char.isAlphanum, h, Bool.or_true]

theorem isLower_iff {c : Char} : c.isLower = true ↔ 'a'.val ≤ c.val ∧ c.val ≤ 'z'.val := by
  show (decide ('a'.val ≤ c.val) && decide (c.val ≤ 'z'.val)) = true ↔ _
  rw [Bool.and_eq_true, decide_eq_true_eq, decide_eq_true_eq]

theorem isUpper_iff {c : Char} : c.isUpper = true ↔ 'A'.val ≤ c.val ∧ c.val ≤ 'Z'.val :=
  decide_eq_true_iff

theorem isAlpha_iff {c : Char} : c.isAlpha = true ↔ c.isUpper = true ∨ c.isLower = true :=
  Bool.or_eq_true_iff

theorem isAlpha_of_isDigit {c : Char} (h : c.isDigit = true) : c.isAlpha = false := by
  refine Bool.eq_false_iff.mpr fun letter => ?_
  have below : c.val.toNat ≤ 57 := (Char.isDigit_iff_toNat.mp h).2
  rcases isAlpha_iff.mp letter with upper | lower
  · have above : 65 ≤ c.val.toNat := (isUpper_iff.mp upper).1
    omega
  · have above : 97 ≤ c.val.toNat := (isLower_iff.mp lower).1
    omega

theorem isDigit_of_isAlpha {c : Char} (letter : c.isAlpha = true) : c.isDigit = false := by
  cases digit : c.isDigit with
  | false => rfl
  | true =>
    rw [isAlpha_of_isDigit digit] at letter
    cases letter

theorem toUpper_of_not_isLower {c : Char} (h : ¬ c.isLower = true) : c.toUpper = c :=
  dif_neg fun inside => h (isLower_iff.mpr inside)

theorem val_toUpper {c : Char} (lower : c.isLower = true) :
    c.toUpper.val = c.val + ('A'.val - 'a'.val) := by
  delta Char.toUpper
  rw [dif_pos (isLower_iff.mp lower)]

theorem isUpper_toUpper {c : Char} (lower : c.isLower = true) : c.toUpper.isUpper = true := by
  have inside : 97 ≤ c.val.toNat ∧ c.val.toNat ≤ 122 := isLower_iff.mp lower
  have offset : ('A'.val - 'a'.val).toNat = 4294967264 := by decide
  have number : c.toUpper.val.toNat = c.val.toNat - 32 := by
    rw [val_toUpper lower, UInt32.toNat_add, offset]
    omega
  have upper : 65 ≤ c.toUpper.val.toNat ∧ c.toUpper.val.toNat ≤ 90 := by omega
  exact isUpper_iff.mpr upper

theorem toUpper_of_isDigit {c : Char} (h : c.isDigit = true) : c.toUpper = c :=
  toUpper_of_not_isLower fun lower =>
    Bool.eq_false_iff.mp (isAlpha_of_isDigit h) (isAlpha_iff.mpr (.inr lower))

theorem isAlphanum_toUpper {c : Char} (h : c.isAlphanum = true) : c.toUpper.isAlphanum = true := by
  by_cases lower : c.isLower = true
  · have letter : c.toUpper.isAlpha = true := isAlpha_iff.mpr (.inl (isUpper_toUpper lower))
    simp only [Char.isAlphanum, letter, Bool.true_or]
  · rw [toUpper_of_not_isLower lower, h]

theorem joinWords_isAlphanum {raise : Bool} {cs : List Char} :
    ∀ c ∈ joinWords raise cs, c.isAlphanum = true := by
  induction cs generalizing raise with
  | nil => simp [joinWords]
  | cons c cs ih =>
    by_cases kept : c.isAlphanum = true
    · simp only [joinWords, kept, if_true, List.mem_cons, forall_eq_or_imp]
      refine ⟨?_, ih⟩
      split
      · exact isAlphanum_toUpper kept
      · exact kept
    · simp only [joinWords, if_neg kept]
      exact ih

theorem guarded_isName {cs : List Char} (h : ∀ c ∈ cs, c.isAlphanum = true) :
    IsName (guarded cs) := by
  cases cs with
  | nil => exact .blank
  | cons c cs =>
    have rest : ∀ d ∈ cs, d.isAlphanum = true := fun d hd => h d (List.mem_cons_of_mem c hd)
    simp only [guarded]
    split
    · rename_i digit
      exact .digit digit rest
    · rename_i other
      have kept := h c List.mem_cons_self
      rw [Char.isAlphanum, Bool.or_eq_true] at kept
      exact .letter (kept.resolve_right other) rest

theorem sanitize_isName (s : String) : IsName (sanitize s).toList := by
  rw [sanitize, String.toList_ofList]
  exact guarded_isName joinWords_isAlphanum

theorem joinWords_append {cs : List Char} (h : ∀ c ∈ cs, c.isAlphanum = true) (ds : List Char) :
    joinWords false (cs ++ ds) = cs ++ joinWords false ds := by
  induction cs with
  | nil => rfl
  | cons c cs ih =>
    have kept := h c List.mem_cons_self
    simp only [List.cons_append, joinWords, kept, if_true, Bool.false_eq_true, if_false]
    rw [ih fun d hd => h d (List.mem_cons_of_mem c hd)]

theorem joinWords_separated {raise : Bool} {cs ds : List Char} {separator : Char}
    (other : separator.isAlphanum = false) :
    joinWords raise (cs ++ separator :: ds) = joinWords raise cs ++ joinWords true ds := by
  induction cs generalizing raise with
  | nil => simp [joinWords, other]
  | cons c cs ih =>
    simp only [List.cons_append, joinWords]
    split
    · rw [ih, List.cons_append]
    · exact ih

theorem joinWords_of_isAlphanum {cs : List Char} (h : ∀ c ∈ cs, c.isAlphanum = true) :
    joinWords false cs = cs := by
  have whole := joinWords_append h []
  rwa [joinWords, List.append_nil] at whole

theorem joinWords_guarded {cs : List Char} (kept : ∀ c ∈ cs, c.isAlphanum = true) :
    joinWords false (guarded cs) = cs := by
  have underscore : ('_' : Char).isAlphanum = false := by decide
  cases cs with
  | nil => rfl
  | cons c cs =>
    simp only [guarded]
    split
    · rename_i digit
      have rest : ∀ d ∈ cs, d.isAlphanum = true := fun d hd => kept d (List.mem_cons_of_mem c hd)
      simp [joinWords, underscore, isAlphanum_of_isDigit digit, toUpper_of_isDigit digit,
        joinWords_of_isAlphanum rest]
    · exact joinWords_of_isAlphanum kept

theorem guarded_inj {cs ds : List Char} (kept : ∀ c ∈ cs, c.isAlphanum = true)
    (kept' : ∀ d ∈ ds, d.isAlphanum = true) (same : guarded cs = guarded ds) : cs = ds := by
  rw [← joinWords_guarded kept, same, joinWords_guarded kept']

theorem IsName.exists_guarded {cs : List Char} (name : IsName cs) :
    ∃ ds, (∀ d ∈ ds, d.isAlphanum = true) ∧ guarded ds = cs := by
  cases name with
  | blank => exact ⟨[], by simp, rfl⟩
  | @digit d rest digit rest_ok =>
    have kept : ∀ c ∈ d :: rest, c.isAlphanum = true :=
      List.forall_mem_cons.mpr ⟨isAlphanum_of_isDigit digit, rest_ok⟩
    exact ⟨d :: rest, kept, by simp [guarded, digit]⟩
  | @letter a rest letter rest_ok =>
    have first : a.isAlphanum = true := by simp only [Char.isAlphanum, letter, Bool.true_or]
    have kept : ∀ c ∈ a :: rest, c.isAlphanum = true := List.forall_mem_cons.mpr ⟨first, rest_ok⟩
    exact ⟨a :: rest, kept, by simp [guarded, isDigit_of_isAlpha letter]⟩

theorem sanitize_of_isName {s : String} (name : IsName s.toList) : sanitize s = s := by
  obtain ⟨ds, kept, same⟩ := name.exists_guarded
  rw [sanitize, ← same, joinWords_guarded kept, same, String.ofList_toList]

theorem IsName.append_digits {cs ds : List Char} (name : IsName cs)
    (digits : ∀ d ∈ ds, d.isDigit = true) : IsName (cs ++ ds) := by
  have more {rest : List Char} (rest_ok : ∀ c ∈ rest, c.isAlphanum = true) :
      ∀ c ∈ rest ++ ds, c.isAlphanum = true := fun c hc =>
    (List.mem_append.mp hc).elim (rest_ok c) fun h => isAlphanum_of_isDigit (digits c h)
  cases name with
  | blank =>
    cases ds with
    | nil => exact .blank
    | cons d ds =>
      exact .digit (digits d List.mem_cons_self) fun c hc =>
        isAlphanum_of_isDigit (digits c (List.mem_cons_of_mem d hc))
  | digit digit rest_ok => exact .digit digit (more rest_ok)
  | letter letter rest_ok => exact .letter letter (more rest_ok)

theorem sanitize_numbered (s : String) (k : Nat) :
    sanitize (sanitize s ++ toString k) = sanitize s ++ toString k := by
  refine sanitize_of_isName ?_
  rw [String.toList_append]
  exact (sanitize_isName s).append_digits fun _ => Text.isDigit_of_mem_toString

/-! ### Names that start with a word in lower case -/

theorem isLower_toUpper (c : Char) : c.toUpper.isLower = false := by
  refine Bool.eq_false_iff.mpr fun lower => ?_
  by_cases was_lower : c.isLower = true
  · have above : 97 ≤ c.toUpper.val.toNat := (isLower_iff.mp lower).1
    have below : c.toUpper.val.toNat ≤ 90 := (isUpper_iff.mp (isUpper_toUpper was_lower)).2
    omega
  · exact was_lower (toUpper_of_not_isLower was_lower ▸ lower)

theorem isLower_head_joinWords (cs : List Char) :
    ∀ c ∈ (joinWords true cs).head?, c.isLower = false := by
  induction cs with
  | nil => simp [joinWords]
  | cons c cs ih =>
    unfold joinWords
    split
    · intro d first
      cases first
      exact isLower_toUpper c
    · exact ih

/-- A word in lower case can be told from what follows it, if that starts in another way. -/
theorem append_inj_of_isLower {word word' rest rest' : List Char}
    (lower : ∀ c ∈ word, c.isLower = true) (lower' : ∀ c ∈ word', c.isLower = true)
    (other : ∀ c ∈ rest.head?, c.isLower = false) (other' : ∀ c ∈ rest'.head?, c.isLower = false) :
    word ++ rest = word' ++ rest' ↔ word = word' ∧ rest = rest' := by
  have nothing {between tail : List Char} (within : ∀ c ∈ between, c.isLower = true)
      (first : ∀ c ∈ (between ++ tail).head?, c.isLower = false) : between = [] := by
    cases between with
    | nil => rfl
    | cons c between =>
      have raised := first c rfl
      rw [within c List.mem_cons_self] at raised
      cases raised
  constructor
  · intro same
    rcases List.append_eq_append_iff.mp same with ⟨between, rfl, rfl⟩ | ⟨between, rfl, rfl⟩
    · cases nothing (fun c hc => lower' c (List.mem_append_right word hc)) other
      exact ⟨(List.append_nil word).symm, rfl⟩
    · cases nothing (fun c hc => lower c (List.mem_append_right word' hc)) other'
      exact ⟨List.append_nil word', rfl⟩
  · rintro ⟨rfl, rfl⟩
    rfl

theorem sanitize_word {word : String} (letters : ∀ c ∈ word.toList, c.isLower = true)
    (given : word ≠ "") (rest : String) :
    sanitize (word ++ ":" ++ rest) = word ++ String.ofList (joinWords true rest.toList) := by
  have letter {c : Char} (lower : c.isLower = true) : c.isAlpha = true :=
    isAlpha_iff.mpr (.inr lower)
  have whole : (word ++ ":" ++ rest).toList = word.toList ++ ':' :: rest.toList := by
    rw [String.toList_append, String.toList_append, List.append_assoc]
    rfl
  have kept : ∀ c ∈ word.toList, c.isAlphanum = true := by
    intro c hc
    simp only [Char.isAlphanum, letter (letters c hc), Bool.true_or]
  have joined : joinWords false (word ++ ":" ++ rest).toList =
      word.toList ++ joinWords true rest.toList := by
    rw [whole, joinWords_separated (by decide), joinWords_of_isAlphanum kept]
  have unguarded : guarded (word.toList ++ joinWords true rest.toList) =
      word.toList ++ joinWords true rest.toList := by
    cases first : word.toList with
    | nil => exact absurd (String.toList_eq_nil_iff.mp first) given
    | cons c cs =>
      have lower := letters c (first ▸ List.mem_cons_self)
      have no_digit := isDigit_of_isAlpha (letter lower)
      simp only [List.cons_append, guarded, no_digit, Bool.false_eq_true, if_false]
  rw [sanitize, joined, unguarded, String.ofList_append, String.ofList_toList]

/-! ### Names of GraphQL -/

/-- The names of GraphQL, `[_A-Za-z][_0-9A-Za-z]*`. -/
def IsGraphqlName : List Char → Prop
  | [] => False
  | c :: cs => (c = '_' ∨ c.isAlpha = true) ∧ ∀ d ∈ cs, d = '_' ∨ d.isAlphanum = true

theorem IsName.isGraphqlName {cs : List Char} (name : IsName cs) : IsGraphqlName cs := by
  cases name with
  | blank => exact ⟨.inl rfl, by simp⟩
  | @digit d rest digit rest_ok =>
    refine ⟨.inl rfl, ?_⟩
    intro c hc
    rcases List.mem_cons.mp hc with rfl | hc
    · exact .inr (isAlphanum_of_isDigit digit)
    · exact .inr (rest_ok c hc)
  | letter letter rest_ok =>
    refine ⟨.inr letter, ?_⟩
    intro c hc
    exact .inr (rest_ok c hc)

theorem IsName.not_reserved {cs : List Char} (name : IsName cs) : ¬ "__".toList <+: cs := by
  rintro ⟨more, rfl⟩
  cases name with
  | digit digit => cases digit
  | letter letter => cases letter

/-- Whatever a text is, it is made a name that is safe in GraphQL. The texts that stay as they are
are exactly these names, so to sanitize a name once more changes nothing. -/
theorem sanitized_names (s : String) : IsName (sanitize s).toList ∧
    IsGraphqlName (sanitize s).toList ∧ ¬ "__".toList <+: (sanitize s).toList ∧
    sanitize (sanitize s) = sanitize s ∧ (sanitize s = s ↔ IsName s.toList) := by
  have name := sanitize_isName s
  refine ⟨name, name.isGraphqlName, name.not_reserved, sanitize_of_isName name, ?_, ?_⟩
  · intro same
    rwa [same] at name
  · exact sanitize_of_isName

end ApiOutline.Identifier
