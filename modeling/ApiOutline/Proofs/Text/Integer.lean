import Mathlib.Data.List.DropRight
import ApiOutline.Text.Integer

/-! Integers as people write them, said as a grammar: blanks around a sign that may be missing and
a row of digits of any script, with single underscores between them. Reading accepts exactly this
grammar, up to the most digits, and the decimal text of a number is a case of it. -/
namespace ApiOutline.Text

inductive IsRow : List Char → List Nat → Prop where
  | last {c : Char} {d : Nat} : decimalDigit? c = some d → IsRow [c] [d]
  | next {c : Char} {d : Nat} {cs : List Char} {ds : List Nat} :
      decimalDigit? c = some d → IsRow cs ds → IsRow (c :: cs) (d :: ds)
  | apart {c : Char} {d : Nat} {cs : List Char} {ds : List Nat} :
      decimalDigit? c = some d → IsRow cs ds → IsRow (c :: '_' :: cs) (d :: ds)

inductive IsSign : List Char → Bool → Prop where
  | missing : IsSign [] false
  | plus : IsSign ['+'] false
  | minus : IsSign ['-'] true

inductive Spells : List Char → Int → Prop where
  | intro {before sign row after : List Char} {negative : Bool} {ds : List Nat} :
      (∀ c ∈ before, isNumberBlank c = true) → IsSign sign negative → IsRow row ds →
      (∀ c ∈ after, isNumberBlank c = true) → ds.length ≤ mostDigits →
      Spells (before ++ (sign ++ row ++ after))
        (if negative then -(ofDigits 10 ds : Int) else ofDigits 10 ds)

/-! ### Characters -/

theorem exists_of_decimalDigit? {c : Char} {d : Nat} (digit : decimalDigit? c = some d) :
    ∃ z ∈ decimalZeros, c.toNat = z + d ∧ d < 10 := by
  obtain ⟨z, found, rfl⟩ := Option.map_eq_some_iff.mp digit
  have within := List.find?_some found
  simp only [Bool.and_eq_true, decide_eq_true_eq] at within
  refine ⟨z, List.mem_of_find?_eq_some found, ?_, ?_⟩ <;> omega

theorem decimalDigit?_of_isDigit {c : Char} (digit : c.isDigit = true) :
    decimalDigit? c = some (c.toNat - 48) := by
  have bounds : 48 ≤ c.toNat ∧ c.toNat ≤ 57 := Char.isDigit_iff_toNat.mp digit
  have first : (decide (48 ≤ c.toNat) && decide (c.toNat < 48 + 10)) = true := by
    simp only [Bool.and_eq_true, decide_eq_true_eq]
    omega
  simp only [decimalDigit?, decimalZeros, List.find?_cons, first, Option.map_some]

theorem anyDigit?_ten (c : Char) : anyDigit? 10 c = decimalDigit? c := by
  unfold anyDigit?
  cases digit : decimalDigit? c with
  | some d =>
    obtain ⟨_, _, _, small⟩ := exists_of_decimalDigit? digit
    simp only [small, if_true]
  | none =>
    have no_digit : ¬ ('0' ≤ c ∧ c ≤ '9') := by
      rintro ⟨low, high⟩
      have bounds : c.isDigit = true := Char.isDigit_iff_toNat.mpr ⟨low, high⟩
      rw [decimalDigit?_of_isDigit bounds] at digit
      cases digit
    have large {n : Nat} (h : 10 ≤ n) : (if n < 10 then some n else none) = none :=
      if_neg (by omega)
    simp only [digitOf?, if_neg no_digit]
    split
    · rename_i letter
      have low : 97 ≤ c.toNat := letter.1
      exact large (by omega)
    · split
      · rename_i letter
        have low : 65 ≤ c.toNat := letter.1
        exact large (by omega)
      · exact large (by omega)

theorem isNumberBlank_of_digit {c : Char} {d : Nat} (digit : decimalDigit? c = some d) :
    isNumberBlank c = false := by
  have apart : ∀ z ∈ decimalZeros, (0x30 ≤ z ∧ z + 9 < 0x85) ∨ (0xa0 < z ∧ z + 9 < 0x1680) ∨
      (0x1680 < z ∧ z + 9 < 0x2000) ∨ 0x3000 < z := by decide
  obtain ⟨z, zero, number, small⟩ := exists_of_decimalDigit? digit
  have between := apart z zero
  have no_blank : isBlank c = false := by
    simp only [isBlank, Bool.or_eq_false_iff, Bool.and_eq_false_iff, decide_eq_false_iff_not,
      beq_eq_false_iff_ne]
    omega
  simp only [isNumberBlank, no_blank, Bool.false_and]

theorem not_mem_of_digit {c : Char} {d : Nat} (digit : decimalDigit? c = some d) :
    c ∉ ['+', '-', '_'] := by
  have no_digits : ['+', '-', '_'].all (fun m => (decimalDigit? m).isNone) = true := by decide
  intro mark
  have no_digit := List.all_eq_true.mp no_digits c mark
  rw [digit] at no_digit
  cases no_digit

theorem decimalDigit?_of_blank {c : Char} (blank : isNumberBlank c = true) :
    decimalDigit? c = none := by
  cases digit : decimalDigit? c with
  | none => rfl
  | some d =>
    rw [isNumberBlank_of_digit digit] at blank
    cases blank

/-! ### Rows of digits -/

theorem IsRow.cons_of_digit {row : List Char} {ds : List Nat} (h : IsRow row ds) :
    ∃ c cs d, row = c :: cs ∧ decimalDigit? c = some d := by
  cases h with
  | last digit => exact ⟨_, _, _, rfl, digit⟩
  | next digit _ => exact ⟨_, _, _, rfl, digit⟩
  | apart digit _ => exact ⟨_, _, _, rfl, digit⟩

theorem IsRow.snoc_of_digit {row : List Char} {ds : List Nat} (h : IsRow row ds) :
    ∃ cs c d, row = cs ++ [c] ∧ decimalDigit? c = some d := by
  induction h with
  | last digit => exact ⟨[], _, _, rfl, digit⟩
  | @next c _ _ _ _ _ ih =>
    obtain ⟨cs, e, d, rfl, digit⟩ := ih
    exact ⟨c :: cs, e, d, rfl, digit⟩
  | @apart c _ _ _ _ _ ih =>
    obtain ⟨cs, e, d, rfl, digit⟩ := ih
    exact ⟨c :: '_' :: cs, e, d, rfl, digit⟩

theorem IsRow.countP_eq {row : List Char} {ds : List Nat} (h : IsRow row ds) :
    row.countP (fun c => (decimalDigit? c).isSome) = ds.length := by
  have underscore : (decimalDigit? '_').isSome = false := by decide
  induction h with
  | last digit => simp [digit]
  | next digit _ ih => simp [digit, ih]
  | apart digit _ ih => simp [digit, underscore, ih]

theorem isRow_of_digitRow? {row : List Char} {ds : List Nat} (read : digitRow? 10 row = some ds) :
    IsRow row ds := by
  fun_induction digitRow? 10 row generalizing ds with
  | case1 => cases read
  | case2 c =>
    rw [anyDigit?_ten] at read
    obtain ⟨d, digit, rfl⟩ := Option.map_eq_some_iff.mp read
    exact .last digit
  | case3 c cs ih =>
    rw [anyDigit?_ten] at read
    obtain ⟨d, digit, others⟩ := Option.bind_eq_some_iff.mp read
    obtain ⟨rest, row, same⟩ := Option.bind_eq_some_iff.mp others
    cases same
    exact .apart digit (ih row)
  | case4 c cs _ _ ih =>
    rw [anyDigit?_ten] at read
    obtain ⟨d, digit, others⟩ := Option.bind_eq_some_iff.mp read
    obtain ⟨rest, row, same⟩ := Option.bind_eq_some_iff.mp others
    cases same
    exact .next digit (ih row)

theorem IsRow.digitRow?_eq {row : List Char} {ds : List Nat} (h : IsRow row ds) :
    digitRow? 10 row = some ds := by
  induction h with
  | last digit => simp [digitRow?, anyDigit?_ten, digit]
  | @next c d cs ds digit rest ih =>
    obtain ⟨first, others, e, rfl, next_digit⟩ := rest.cons_of_digit
    have no_underscore : first ≠ '_' := by
      rintro rfl
      exact not_mem_of_digit next_digit (by simp)
    rw [digitRow?.eq_4 _ _ _ (by simp) (by simpa using no_underscore)]
    simp [anyDigit?_ten, digit, ih]
  | apart digit _ ih => simp [digitRow?, anyDigit?_ten, digit, ih]

theorem isRow_of_isDigit {row : List Char} (given : row ≠ [])
    (digits : ∀ c ∈ row, c.isDigit = true) : IsRow row (row.map (·.toNat - 48)) := by
  induction row with
  | nil => exact absurd rfl given
  | cons c cs ih =>
    have digit := decimalDigit?_of_isDigit (digits c List.mem_cons_self)
    cases cs with
    | nil => exact .last digit
    | cons e es =>
      have rest := ih (by simp) fun d hd => digits d (List.mem_cons_of_mem c hd)
      exact .next digit rest

/-! ### Blanks and signs -/

theorem exists_of_trimWhere (p : Char → Bool) (cs : List Char) :
    ∃ before after, cs = before ++ (trimWhere p cs ++ after) ∧ (∀ c ∈ before, p c = true) ∧
      ∀ c ∈ after, p c = true := by
  refine ⟨cs.takeWhile p, (cs.dropWhile p).rtakeWhile p, ?_, ?_, ?_⟩
  · have inner : trimWhere p cs ++ (cs.dropWhile p).rtakeWhile p = cs.dropWhile p :=
      List.rdropWhile_append_rtakeWhile
    rw [inner, List.takeWhile_append_dropWhile]
  · intro c hc
    exact List.mem_takeWhile_imp hc
  · intro c hc
    exact List.mem_rtakeWhile_imp hc

theorem trimWhere_append {p : Char → Bool} {before middle after : List Char}
    (blanks : ∀ c ∈ before, p c = true) (blanks' : ∀ c ∈ after, p c = true)
    (first : ∃ c cs, middle = c :: cs ∧ p c = false)
    (last : ∃ cs c, middle = cs ++ [c] ∧ p c = false) :
    trimWhere p (before ++ (middle ++ after)) = middle := by
  have left : (before ++ (middle ++ after)).dropWhile p = middle ++ after := by
    obtain ⟨c, cs, rfl, other⟩ := first
    rw [List.dropWhile_append_of_pos blanks]
    simp [other]
  have right : (middle ++ after).reverse.dropWhile p = middle.reverse := by
    obtain ⟨cs, c, rfl, other⟩ := last
    rw [List.reverse_append, List.dropWhile_append_of_pos (by simpa using blanks')]
    simp [other]
  rw [trimWhere, left, right, List.reverse_reverse]

theorem exists_of_signed (cs : List Char) :
    ∃ sign, IsSign sign (signed cs).1 ∧ cs = sign ++ (signed cs).2 := by
  unfold signed
  split
  · exact ⟨_, .minus, rfl⟩
  · exact ⟨_, .plus, rfl⟩
  · exact ⟨_, .missing, rfl⟩

theorem IsSign.signed_append {sign row : List Char} {negative : Bool} {ds : List Nat}
    (h : IsSign sign negative) (digits : IsRow row ds) :
    signed (sign ++ row) = (negative, row) := by
  cases h with
  | plus => rfl
  | minus => rfl
  | missing =>
    obtain ⟨c, cs, d, rfl, digit⟩ := digits.cons_of_digit
    rw [List.nil_append]
    unfold signed
    split
    · rename_i same
      cases same
      exact absurd (not_mem_of_digit digit) (by simp)
    · rename_i same
      cases same
      exact absurd (not_mem_of_digit digit) (by simp)
    · rfl

/-! ### Integers -/

theorem integer?_ten (cs : List Char) : integer? 10 cs =
    (digitRow? 10 (signed (trimWhere isNumberBlank cs)).2).map fun ds =>
      if (signed (trimWhere isNumberBlank cs)).1 then -(ofDigits 10 ds : Int)
      else ofDigits 10 ds := by
  have unmarked (row : List Char) : withoutMark 10 row = row := by
    simp only [withoutMark, Nat.reduceEqDiff, if_false, reduceCtorEq]
    split <;> rfl
  simp only [integer?, unmarked]

theorem countP_digits {before sign row after : List Char} {negative : Bool} {ds : List Nat}
    (blanks : ∀ c ∈ before, isNumberBlank c = true) (is_sign : IsSign sign negative)
    (digits : IsRow row ds) (blanks' : ∀ c ∈ after, isNumberBlank c = true) :
    (before ++ (sign ++ row ++ after)).countP (fun c => (anyDigit? 10 c).isSome) = ds.length := by
  have none_of_blanks {cs : List Char} (all : ∀ c ∈ cs, isNumberBlank c = true) :
      cs.countP (fun c => (decimalDigit? c).isSome) = 0 := by
    apply List.countP_eq_zero.mpr
    intro c hc
    simp [decimalDigit?_of_blank (all c hc)]
  have none_of_sign : sign.countP (fun c => (decimalDigit? c).isSome) = 0 := by
    cases is_sign <;> decide
  simp only [anyDigit?_ten, List.countP_append, none_of_blanks blanks, none_of_blanks blanks',
    none_of_sign, digits.countP_eq]
  omega

/-- Exactly the texts of the grammar are read, each as the integer that it spells. -/
theorem boundedInteger?_eq_some {cs : List Char} {i : Int} :
    boundedInteger? 10 cs = some i ↔ Spells cs i := by
  constructor
  · intro read
    unfold boundedInteger? at read
    split at read
    · cases read
    · rename_i few
      rw [integer?_ten] at read
      obtain ⟨ds, row, rfl⟩ := Option.map_eq_some_iff.mp read
      have digits := isRow_of_digitRow? row
      obtain ⟨before, after, whole, blanks, blanks'⟩ := exists_of_trimWhere isNumberBlank cs
      obtain ⟨sign, is_sign, middle⟩ := exists_of_signed (trimWhere isNumberBlank cs)
      rw [middle] at whole
      have count := countP_digits blanks is_sign digits blanks'
      rw [← whole] at count
      have enough : ds.length ≤ mostDigits := by omega
      have spelled := Spells.intro blanks is_sign digits blanks' enough
      rwa [← whole] at spelled
  · rintro ⟨blanks, is_sign, digits, blanks', few⟩
    rename_i before sign row after negative ds
    have count := countP_digits blanks is_sign digits blanks'
    have first : ∃ c cs, sign ++ row = c :: cs ∧ isNumberBlank c = false := by
      cases is_sign with
      | plus => exact ⟨'+', row, rfl, by decide⟩
      | minus => exact ⟨'-', row, rfl, by decide⟩
      | missing =>
        obtain ⟨c, cs, d, rfl, digit⟩ := digits.cons_of_digit
        exact ⟨c, cs, rfl, isNumberBlank_of_digit digit⟩
    have last : ∃ cs c, sign ++ row = cs ++ [c] ∧ isNumberBlank c = false := by
      obtain ⟨cs, c, d, rfl, digit⟩ := digits.snoc_of_digit
      exact ⟨sign ++ cs, c, (List.append_assoc _ _ _).symm, isNumberBlank_of_digit digit⟩
    have trimmed := trimWhere_append blanks blanks' first last
    unfold boundedInteger?
    rw [if_neg (by omega), integer?_ten, trimmed, is_sign.signed_append digits,
      digits.digitRow?_eq]
    rfl

theorem isDigit_of_mem_toString {n : Nat} {c : Char} (member : c ∈ (toString n).toList) :
    c.isDigit = true := by
  rw [Nat.toString_eq_ofList_toDigits, String.toList_ofList] at member
  exact Nat.isDigit_of_mem_toDigits (by decide) (by decide) member

theorem spells_toString {n : Nat} (few : (toString n).length ≤ mostDigits) :
    Spells (toString n).toList n := by
  have digits : ∀ c ∈ (toString n).toList, c.isDigit = true := fun _ => isDigit_of_mem_toString
  rw [Nat.toString_eq_ofList_toDigits, String.length_ofList] at few
  rw [Nat.toString_eq_ofList_toDigits, String.toList_ofList] at digits ⊢
  have row := isRow_of_isDigit Nat.toDigits_ne_nil digits
  have value : ofDigits 10 ((Nat.toDigits 10 n).map (·.toNat - 48)) = n := by
    have read := @Nat.ofDigitChars_ten_toDigits n
    rw [Nat.ofDigitChars_eq_foldl] at read
    rw [ofDigits, List.foldl_map]
    simpa [Nat.mul_comm] using read
  have nothing : ∀ c ∈ ([] : List Char), isNumberBlank c = true := by simp
  have spelled := Spells.intro nothing .missing row nothing (by rwa [List.length_map])
  simpa [value] using spelled

end ApiOutline.Text
