import ApiOutline.Proofs.Text.Integer
import ApiOutline.Proofs.Tree.Hereditary
import ApiOutline.Reference

/-! The texts of references. Every part of a document has a reference that leads to it, whatever
characters the keys on the way hold, and the name of the reference is the last step of the way. In
the other direction a list also accepts positions that are written in other ways, or from its end;
what it accepts is said exactly. -/
namespace ApiOutline.Reference

variable {root v : Tree} {r : String}

/-! ### Steps as they are written -/

def replaced (code meant : Char) : List Char → List Char
  | [] => []
  | '~' :: c :: cs =>
    if c = code then meant :: replaced code meant cs else '~' :: replaced code meant (c :: cs)
  | c :: cs => c :: replaced code meant cs

theorem replaced_cons {code meant c : Char} {cs : List Char} (plain : c ≠ '~') :
    replaced code meant (c :: cs) = c :: replaced code meant cs := by
  rw [replaced.eq_3 _ _ _ _ (by simp [plain])]

/-- Where slashes were put in, no zero comes to stand after a tilde. -/
theorem head_replaced_slash {c : Char} {cs : List Char} (other : c ≠ '0') :
    ∃ d ds, replaced '1' '/' (c :: cs) = d :: ds ∧ d ≠ '0' := by
  by_cases tilde : c = '~'
  · subst tilde
    cases cs with
    | nil => exact ⟨'~', [], rfl, by decide⟩
    | cons d ds =>
      rw [replaced]
      split
      · exact ⟨'/', _, rfl, by decide⟩
      · exact ⟨'~', _, rfl, by decide⟩
  · exact ⟨c, _, replaced_cons tilde, other⟩

/-- A step can be read in two rounds, if slashes are put in before tildes. -/
theorem unescape_eq_replaced (cs : List Char) :
    unescape cs = replaced '0' '~' (replaced '1' '/' cs) := by
  fun_induction unescape cs with
  | case1 => rfl
  | case2 cs ih =>
    rw [replaced, if_pos rfl, replaced_cons (by decide), ih]
  | case3 cs ih =>
    have plain : replaced '1' '/' ('0' :: cs) = '0' :: replaced '1' '/' cs :=
      replaced_cons (by decide)
    rw [replaced, if_neg (by decide), plain, replaced, if_pos rfl, ih]
  | case4 c cs no_slash no_tilde ih =>
    by_cases tilde : c = '~'
    · subst tilde
      cases cs with
      | nil => rfl
      | cons d ds =>
        have not_one : d ≠ '1' := fun one => no_slash ds rfl (by rw [one])
        have not_zero : d ≠ '0' := fun zero => no_tilde ds rfl (by rw [zero])
        obtain ⟨e, es, rest, other⟩ := @head_replaced_slash d ds not_zero
        rw [replaced, if_neg not_one, ih, rest, replaced, if_neg other]
    · rw [replaced_cons tilde, replaced_cons tilde, ih]

theorem mem_of_mem_unescape {c : Char} {cs : List Char} (member : c ∈ unescape cs) :
    c ∈ cs ∨ c = '/' ∨ c = '~' := by
  fun_induction unescape cs with
  | case1 => cases member
  | case2 cs ih => grind
  | case3 cs ih => grind
  | case4 d cs _ _ ih => grind

def halfEscaped (cs : List Char) : List Char :=
  cs.flatMap fun c => if c = '~' then ['~', '0'] else [c]

theorem replaced_escape (cs : List Char) : replaced '1' '/' (escape cs) = halfEscaped cs := by
  induction cs with
  | nil => rfl
  | cons c cs ih =>
    simp only [escape, halfEscaped] at ih
    simp only [escape, halfEscaped, List.flatMap_cons]
    by_cases tilde : c = '~'
    · have plain := @replaced_cons '1' '/' '0' (escape cs) (by decide)
      simp only [escape, ih] at plain
      simp [tilde, replaced, plain]
    · by_cases slash : c = '/'
      · simp [slash, replaced, ih]
      · simp [tilde, slash, replaced_cons tilde, ih]

theorem replaced_halfEscaped (cs : List Char) : replaced '0' '~' (halfEscaped cs) = cs := by
  induction cs with
  | nil => rfl
  | cons c cs ih =>
    simp only [halfEscaped] at ih
    simp only [halfEscaped, List.flatMap_cons]
    by_cases tilde : c = '~'
    · simp [tilde, replaced, ih]
    · simp [tilde, replaced_cons tilde, ih]

theorem unescape_escape (cs : List Char) : unescape (escape cs) = cs := by
  rw [unescape_eq_replaced, replaced_escape, replaced_halfEscaped]

theorem slash_not_mem_escape (cs : List Char) : '/' ∉ escape cs := by
  intro slash
  obtain ⟨c, _, written⟩ := List.mem_flatMap.mp slash
  split at written
  · simp at written
  · rename_i other
    split at written
    · simp at written
    · rename_i no_slash
      exact no_slash (List.mem_singleton.mp written).symm

theorem escape_of_plain {cs : List Char} (plain : ∀ c ∈ cs, c ≠ '~' ∧ c ≠ '/') :
    escape cs = cs := by
  induction cs with
  | nil => rfl
  | cons c cs ih =>
    have first := plain c List.mem_cons_self
    have rest := ih fun d hd => plain d (List.mem_cons_of_mem c hd)
    simp only [escape] at rest
    simp [escape, first.1, first.2, rest]

/-! ### Ways into a document -/

/-- A step on a way into a document. -/
inductive Turn where
  | key (k : String)
  | position (i : Nat)

def Turn.word : Turn → String
  | .key k => k
  | .position i => toString i

def Turn.written : Turn → List Char
  | .key k => escape k.toList
  | .position i => (toString i).toList

def ofWay (way : List Turn) : String :=
  String.ofList ('#' :: way.flatMap fun turn => '/' :: turn.written)

/-- A way leads from a value to a part of it. -/
inductive ComesTo : Tree → List Turn → Tree → Prop where
  | here (t : Tree) : ComesTo t [] t
  | key {o : Object} {loop : Option Nat} {k : String} {u v : Tree} {way : List Turn} :
      (.text k, u) ∈ o → ComesTo u way v → ComesTo (.object o loop) (.key k :: way) v
  | position {items : List Tree} {loop : Option Nat} {i : Nat} {u v : Tree} {way : List Turn} :
      items[i]? = some u → ComesTo u way v → ComesTo (.list items loop) (.position i :: way) v

theorem Turn.written_eq (turn : Turn) : turn.written = escape turn.word.toList := by
  cases turn with
  | key k => rfl
  | position i =>
    have plain : ∀ c ∈ (toString i).toList, c ≠ '~' ∧ c ≠ '/' := by
      intro c hc
      have digit := Text.isDigit_of_mem_toString hc
      constructor
      · rintro rfl
        cases digit
      · rintro rfl
        cases digit
    exact (escape_of_plain plain).symm

theorem toList_ofWay {way : List Turn} (given : way ≠ []) :
    (ofWay way).toList = '#' :: '/' :: ['/'].intercalate (way.map Turn.written) := by
  have joined : ∀ way : List Turn, way ≠ [] →
      (way.flatMap fun turn => '/' :: turn.written) =
        '/' :: ['/'].intercalate (way.map Turn.written) := by
    intro way given
    induction way with
    | nil => exact absurd rfl given
    | cons turn way ih =>
      cases way with
      | nil => simp
      | cons next way =>
        rw [List.flatMap_cons, ih (by simp)]
        simp
  rw [ofWay, String.toList_ofList, joined way given]

theorem segments_intercalate {way : List Turn} (given : way ≠ []) :
    segments (['/'].intercalate (way.map Turn.written)) = way.map Turn.word := by
  have apart : ∀ part ∈ way.map Turn.written, '/' ∉ part := by
    intro part hpart
    obtain ⟨turn, _, rfl⟩ := List.mem_map.mp hpart
    rw [turn.written_eq]
    exact slash_not_mem_escape _
  have split := List.splitOn_intercalate '/' apart (by simpa using given)
  have read (turn : Turn) : String.ofList (unescape turn.written) = turn.word := by
    rw [turn.written_eq, unescape_escape, String.ofList_toList]
  rw [segments, split, List.map_map]
  exact List.map_congr_left fun turn _ => read turn

theorem position?_toString {i : Nat} (few : (toString i).length ≤ Text.mostDigits) :
    position? (toString i) = some (i : Int) :=
  Text.boundedInteger?_eq_some.mpr (Text.spells_toString few)

theorem walk_of_comesTo {way : List Turn} (formed : root.wellFormed = true)
    (few : ∀ i, .position i ∈ way → (toString i).length ≤ Text.mostDigits)
    (comes : ComesTo root way v) : walk r root (way.map Turn.word) = .ok v := by
  induction comes with
  | here t => rfl
  | @key o loop k u v way member _ ih =>
    have distinct := (Tree.wellFormed_object.mp formed).1
    have found : Object.get? o (.text k) = some u := Object.get?_of_mem distinct member
    have formed' := Tree.wellFormed_hereditary.get? (Tree.wellFormed_hereditary.object formed) found
    have rest := ih formed' fun i hi => few i (List.mem_cons_of_mem _ hi)
    simp only [List.map_cons, walk, step, Turn.word, found]
    exact rest
  | @position items loop i u v way item _ ih =>
    have read := position?_toString (few i List.mem_cons_self)
    have found : itemAt? items i = some u := by
      rw [itemAt?, if_pos (Int.natCast_nonneg i), Int.toNat_natCast, item]
    have formed' := Tree.wellFormed_hereditary.item formed (List.mem_of_getElem? item)
    have rest := ih formed' fun i hi => few i (List.mem_cons_of_mem _ hi)
    simp only [List.map_cons, walk, step, Turn.word, read, Option.bind_some, found]
    exact rest

theorem target_ofWay {way : List Turn} (given : way ≠ []) :
    target root (ofWay way) = walk (ofWay way) root (way.map Turn.word) := by
  unfold target
  rw [toList_ofWay given]
  exact congrArg (walk _ root) (segments_intercalate given)

theorem name_ofWay {way : List Turn} (given : way ≠ []) :
    name (ofWay way) = (way.getLast given).word := by
  have first : (['#'] ++ '/' :: ['/'].intercalate (way.map Turn.written)).splitOn '/' =
      ['#'] :: (['/'].intercalate (way.map Turn.written)).splitOn '/' :=
    List.splitOn_append_cons_self_of_not_mem (by decide) _
  have whole : segments (ofWay way).toList = "#" :: way.map Turn.word := by
    rw [toList_ofWay given, ← segments_intercalate given]
    exact congrArg (List.map fun part => String.ofList (unescape part)) first
  have last : way.getLast? = some (way.getLast given) := List.getLast?_eq_some_getLast given
  rw [name, whole, List.getLastD_cons, List.getLastD_eq_getLast?, List.getLast?_map, last]
  rfl

/-- The reference to a part of a document leads to that part, and its name is the last step of the
way there. No list is so long that a position in it has more digits than an integer may have. -/
theorem reference_round_trip (root v : Tree) (way : List Turn) (formed : root.wellFormed = true)
    (given : way ≠ []) (few : ∀ i, .position i ∈ way → (toString i).length ≤ Text.mostDigits)
    (comes : ComesTo root way v) :
    target root (ofWay way) = .ok v ∧ name (ofWay way) = (way.getLast given).word := by
  constructor
  · rw [target_ofWay given]
    exact walk_of_comesTo formed few comes
  · exact name_ofWay given

def attic : Tree := .record [("", .record [("~1/~0", .list [
  .null, .null, .null, .null, .null, .null, .null, .null, .null, .null,
  .record [("a/b", .text "lamp")]])])]

def wayToLamp : List Turn := [.key "", .key "~1/~0", .position 10, .key "a/b"]

theorem attic_searched : attic.wellFormed = true ∧ wayToLamp ≠ [] ∧
    (∀ i, .position i ∈ wayToLamp → (toString i).length ≤ Text.mostDigits) ∧
    ComesTo attic wayToLamp (.text "lamp") ∧ ofWay wayToLamp = "#//~01~1~00/10/a~1b" ∧
    target attic "#//~01~1~00/10/a~1b" = .ok (.text "lamp") ∧
    name "#//~01~1~00/10/a~1b" = "a/b" := by
  have formed : attic.wellFormed = true := by decide
  have given : wayToLamp ≠ [] := by simp [wayToLamp]
  have few : ∀ i, .position i ∈ wayToLamp → (toString i).length ≤ Text.mostDigits := by
    intro i member
    have ten : i = 10 := by simpa [wayToLamp] using member
    subst ten
    decide
  have comes : ComesTo attic wayToLamp (.text "lamp") :=
    .key (.head _) (.key (.head _) (.position rfl (.key (.head _) (.here _))))
  have written : ofWay wayToLamp = "#//~01~1~00/10/a~1b" := by decide
  have found := reference_round_trip attic (.text "lamp") wayToLamp formed given few comes
  rw [written] at found
  exact ⟨formed, given, few, comes, written, found⟩

/-! ### What a list accepts -/

/-- A position as a reference is to have it: the decimal digits of the number of an item, without a
leading zero. -/
def IsPosition (segment : String) (items : List Tree) : Prop :=
  ∃ i < items.length, segment = toString i

/-- An integer selects an item, counted from the start or, if it is negative, from the end. -/
def Selects (items : List Tree) (i : Int) (u : Tree) : Prop :=
  (∃ n : Nat, i = n ∧ items[n]? = some u) ∨ ∃ n : Nat, i = -(n + 1) ∧ items.reverse[n]? = some u

theorem itemAt?_eq_some {items : List Tree} {i : Int} {u : Tree} :
    itemAt? items i = some u ↔ Selects items i u := by
  unfold itemAt? Selects
  constructor
  · intro found
    split at found
    · exact .inl ⟨i.toNat, by omega, found⟩
    · split at found
      · refine .inr ⟨i.natAbs - 1, by omega, ?_⟩
        rw [List.getElem?_reverse (by omega), ← found]
        congr 1
        omega
      · cases found
  · rintro (⟨n, rfl, found⟩ | ⟨n, rfl, found⟩)
    · rw [if_pos (by omega)]
      exact found
    · have within : n < items.length := by
        have := (List.getElem?_eq_some_iff.mp found).1
        simpa using this
      rw [if_neg (by omega), if_pos (by omega), ← found, List.getElem?_reverse within]
      congr 1
      omega

section List

variable {items : List Tree} {loop : Option Nat} {segment : String}

theorem step_list_of_spells {i : Int} {u : Tree} (spelled : Text.Spells segment.toList i)
    (selected : Selects items i u) : step r (.list items loop) segment = .ok u := by
  have read : position? segment = some i := Text.boundedInteger?_eq_some.mpr spelled
  have found : itemAt? items i = some u := itemAt?_eq_some.mpr selected
  simp only [step, read, Option.bind_some, found]

theorem step_list_of_none
    (none_selected : ∀ i u, Text.Spells segment.toList i → ¬ Selects items i u) :
    step r (.list items loop) segment = .error (.badPosition r segment) := by
  have missed : (position? segment).bind (itemAt? items) = none := by
    cases found : (position? segment).bind (itemAt? items) with
    | none => rfl
    | some u =>
      obtain ⟨i, read, item⟩ := Option.bind_eq_some_iff.mp found
      have spelled := Text.boundedInteger?_eq_some.mp read
      exact absurd (itemAt?_eq_some.mp item) (none_selected i u spelled)
  simp only [step, missed]

end List

theorem walk_append {t : Tree} {before after : List String} (reached : walk r root before = .ok t) :
    walk r root (before ++ after) = walk r t after := by
  induction before generalizing root with
  | nil =>
    cases reached
    rfl
  | cons segment before ih =>
    simp only [List.cons_append, walk] at reached ⊢
    cases first : step r root segment with
    | error e =>
      rw [first] at reached
      cases reached
    | ok u =>
      rw [first] at reached
      exact ih reached

/-- Where a reference comes to a list, it goes on with the item that the next step selects as an
integer of any spelling, and fails if there is none. So steps that are no positions make it fail
exactly if they spell no other integer that selects an item, or if it fails later on. -/
theorem position_rule_kept_iff (root : Tree) (r : String) (path : List Char)
    (before after : List String) (segment : String) (items : List Tree) (loop : Option Nat)
    (written : r.toList = '#' :: '/' :: path) (parts : segments path = before ++ segment :: after)
    (reached : walk r root before = .ok (.list items loop)) :
    (∀ i u, Text.Spells segment.toList i → Selects items i u → target root r = walk r u after) ∧
    ((∀ i u, Text.Spells segment.toList i → ¬ Selects items i u) →
      target root r = .error (.badPosition r segment)) ∧
    ((¬ IsPosition segment items → ∃ e, target root r = .error e) ↔
      IsPosition segment items ∨ ∀ i u, Text.Spells segment.toList i → Selects items i u →
        ∃ e, walk r u after = .error e) := by
  have course : target root r = walk r (.list items loop) (segment :: after) := by
    rw [← walk_append reached, ← parts]
    unfold target
    rw [written]
    rfl
  have goes_on : ∀ i u, Text.Spells segment.toList i → Selects items i u →
      target root r = walk r u after := by
    intro i u spelled selected
    rw [course, walk, step_list_of_spells spelled selected]
  have fails : (∀ i u, Text.Spells segment.toList i → ¬ Selects items i u) →
      target root r = .error (.badPosition r segment) := by
    intro none_selected
    rw [course, walk, step_list_of_none none_selected]
  refine ⟨goes_on, fails, ?_, ?_⟩
  · intro kept
    by_cases position : IsPosition segment items
    · exact .inl position
    · right
      intro i u spelled selected
      rw [← goes_on i u spelled selected]
      exact kept position
  · rintro (position | later) other
    · exact absurd position other
    · by_cases selects : ∃ i u, Text.Spells segment.toList i ∧ Selects items i u
      · obtain ⟨i, u, spelled, selected⟩ := selects
        rw [goes_on i u spelled selected]
        exact later i u spelled selected
      · refine ⟨_, fails ?_⟩
        intro i u spelled selected
        exact selects ⟨i, u, spelled, selected⟩

def books : List Tree := [.text "atlas", .text "novel", .text "verse"]

def shelf : Tree := .record [("shelf", .list books)]

theorem shelf_padded : "#/shelf/ -0_2".toList = '#' :: '/' :: "shelf/ -0_2".toList ∧
    segments "shelf/ -0_2".toList = ["shelf"] ++ " -0_2" :: [] ∧
    walk "#/shelf/ -0_2" shelf ["shelf"] = .ok (.list books) ∧
    Text.Spells " -0_2".toList (-2) ∧ Selects books (-2) (.text "novel") ∧
    target shelf "#/shelf/ -0_2" = .ok (.text "novel") := by
  have spelled : Text.Spells ([' '] ++ (['-'] ++ ['0', '_', '2'] ++ [])) (-2) := by
    have row : Text.IsRow ['0', '_', '2'] [0, 2] := .apart (by decide) (.last (by decide))
    exact .intro (List.all_eq_true.mp (by decide)) .minus row (by simp) (by decide)
  have selected : Selects books (-2) (.text "novel") := .inr ⟨1, rfl, rfl⟩
  have rule := position_rule_kept_iff shelf "#/shelf/ -0_2" "shelf/ -0_2".toList ["shelf"] []
    " -0_2" books none (by decide) (by decide) rfl
  exact ⟨by decide, by decide, rfl, spelled, selected, rule.1 (-2) (.text "novel") spelled selected⟩

/-- No number of an item is negative, and yet there is an item at minus one. -/
theorem shelf_from_end : "#/shelf/-1".toList = '#' :: '/' :: "shelf/-1".toList ∧
    segments "shelf/-1".toList = ["shelf"] ++ "-1" :: [] ∧
    walk "#/shelf/-1" shelf ["shelf"] = .ok (.list books) ∧ ¬ IsPosition "-1" books ∧
    target shelf "#/shelf/-1" = .ok (.text "verse") := by
  refine ⟨by decide, by decide, rfl, ?_, rfl⟩
  rintro ⟨i, small, same⟩
  have minus : '-' ∈ (toString i).toList := by
    rw [← same]
    decide
  have digit := Text.isDigit_of_mem_toString minus
  cases digit

end ApiOutline.Reference
