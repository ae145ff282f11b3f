import ApiOutline.Proofs.Identifier
import ApiOutline.Proofs.Outline.Hierarchy
import ApiOutline.Proofs.Outline.Order

/-! Ids that follow from methods and paths. What is neither a letter nor a digit leaves no trace in
them, so two operations have one id if their methods are the same and the words of their paths are
joined to the same letters and digits. -/
namespace ApiOutline

namespace Method

theorem isLower_word (m : Method) : ∀ c ∈ m.word.toList, c.isLower = true := by
  have lower : m.word.toList.all Char.isLower = true := by
    cases m <;> rfl
  exact List.all_eq_true.mp lower

theorem word_ne_empty (m : Method) : m.word ≠ "" := by
  cases m <;> decide

theorem word_injective {m m' : Method} (same : m.word = m'.word) : m = m' := by
  have known (m : Method) : ofWord? m.word = some m := by
    cases m <;> rfl
  exact Option.some.inj ((known m).symm.trans (same ▸ known m'))

end Method

namespace Declared

variable {v w : Declared}

/-- An operation that declares no id, under a key in lower case. -/
structure IsDerived (v : Declared) : Prop where
  unnamed : (Object.field v.endpoint "operationId").text? = none
  lower : v.site.method = .text v.method.word

def words (v : Declared) : List Char :=
  match v.site.path with
  | .text path => Identifier.joinWords true path.toList
  | _ => []

/-- Whether two operations have one method, and paths with the same words. -/
def Collides (v w : Declared) : Prop := v.method = w.method ∧ v.words = w.words

instance : Decidable (v.Collides w) :=
  inferInstanceAs (Decidable (v.method = w.method ∧ v.words = w.words))

theorem isLower_head_words (v : Declared) : ∀ c ∈ v.words.head?, c.isLower = false := by
  unfold words
  split
  · exact Identifier.isLower_head_joinWords _
  · simp

variable [Machine]

theorem id?_of_isDerived (derived : v.IsDerived) (kept : v.isLeftOut = false) :
    v.id? = some (v.method.word ++ String.ofList v.words) := by
  obtain ⟨path, is_path⟩ := Site.path_of_responseSchema (Option.isNone_eq_false_iff.mp kept)
  have identified : Operation.identify v.site v.endpoint =
      .ok (Identifier.sanitize (v.method.word ++ ":" ++ path)) := by
    unfold Operation.identify
    rw [derived.unnamed, derived.lower, is_path]
    rfl
  have spelled : v.words = Identifier.joinWords true path.toList := by
    unfold words
    rw [is_path]
  rw [id?, kept, if_neg Bool.false_ne_true, identified, spelled,
    Identifier.sanitize_word v.method.isLower_word v.method.word_ne_empty]
  rfl

theorem id?_eq_iff (derived : v.IsDerived) (derived' : w.IsDerived) (kept : v.isLeftOut = false)
    (kept' : w.isLeftOut = false) : v.id? = w.id? ↔ v.Collides w := by
  have characters : v.id? = w.id? ↔
      v.method.word.toList ++ v.words = w.method.word.toList ++ w.words := by
    rw [id?_of_isDerived derived kept, id?_of_isDerived derived' kept', Option.some.injEq,
      ← String.toList_inj, String.toList_append, String.toList_append, String.toList_ofList,
      String.toList_ofList]
  rw [characters, Identifier.append_inj_of_isLower v.method.isLower_word w.method.isLower_word
    v.isLower_head_words w.isLower_head_words, String.toList_inj]
  exact and_congr_left' ⟨Method.word_injective, congrArg Method.word⟩

end Declared

namespace Outline

section

variable [Machine]

/-- Two operations that get their ids from their methods and paths have one id if and only if they
have one method and paths with the same words. Such an operation stays if and only if no later one
collides with it, and there are as many warnings about one that is replaced as there are operations
that do not stay. -/
theorem derived_operations_kept_iff (document : Object) (options : Options) (notes : List Note)
    (o : Outline) (run : ofDocument document options = ⟨notes, .ok o⟩)
    (derived : ∀ v ∈ Declared.ofDocument document, v.IsDerived) :
    (∀ v ∈ Declared.ofDocument document, ∀ w ∈ Declared.ofDocument document,
      v.isLeftOut = false → w.isLeftOut = false → (v.id? = w.id? ↔ v.Collides w)) ∧
    (∀ (i : Nat) (v : Declared), (Declared.ofDocument document)[i]? = some v →
      v.isLeftOut = false → ((∃ e ∈ o.operations, BuiltAt document options e i) ↔
        ∀ w ∈ (Declared.ofDocument document).drop (i + 1), w.isLeftOut = false →
          ¬ v.Collides w)) ∧
    o.operations.length + notes.countP Note.isReplaced =
      (Declared.ofDocument document).countP (!·.isLeftOut) := by
  have one_id_iff : ∀ v ∈ Declared.ofDocument document, ∀ w ∈ Declared.ofDocument document,
      v.isLeftOut = false → w.isLeftOut = false → (v.id? = w.id? ↔ v.Collides w) :=
    fun v hv w hw => Declared.id?_eq_iff (derived v hv) (derived w hw)
  refine ⟨one_id_iff, fun i v found kept => ?_, (counted_of_ofDocument run).2⟩
  have hv : v ∈ Declared.ofDocument document := List.mem_of_getElem? found
  have identified := Declared.id?_of_isDerived (derived v hv) kept
  rw [exists_builtAt_iff (congrArg Logged.result run) found identified, ← identified]
  refine forall₂_congr fun w later => ?_
  cases left : w.isLeftOut with
  | true => simp [Declared.id?_of_isLeftOut left, identified]
  | false =>
    rw [forall_prop_of_true rfl, ← one_id_iff v hv w (List.mem_of_mem_drop later) kept left]
    exact ne_comm

end

def arcade : Object :=
  let game := Tree.record [("responses", answer (.record [("title", .text "Game")]))]
  [(.text "paths", .record [("/pin/ball", .record [("get", game), ("put", game)]),
    ("/pin-ball", .record [("get", game)])])]

theorem isDerived_arcade : ∀ v ∈ Declared.ofDocument arcade, v.IsDerived := by
  have each : ∀ v ∈ Declared.ofDocument arcade,
      (Object.field v.endpoint "operationId").text? = none ∧
        v.site.method = .text v.method.word := by decide +kernel
  exact fun v hv => ⟨(each v hv).1, (each v hv).2⟩

theorem arcade_kept : ∃ notes o, ofDocument arcade Options.usual = ⟨notes, .ok o⟩ ∧
    (Declared.ofDocument arcade).length = 3 ∧
    (∃ e ∈ o.operations, BuiltAt arcade Options.usual e 1) ∧
    (∃ e ∈ o.operations, BuiltAt arcade Options.usual e 2) ∧ notes.countP Note.isReplaced = 1 := by
  obtain ⟨o, succeeds, two⟩ := Except.exists_of_any
    (x := (ofDocument arcade Options.usual).result) (p := fun o => o.operations.length == 2)
    (by decide +kernel)
  have run := Logged.eq_mk_of_result succeeds
  obtain ⟨_, stays_iff, counted⟩ :=
    derived_operations_kept_iff arcade Options.usual _ o run isDerived_arcade
  have stays (i : Nat) (alone : ((Declared.ofDocument arcade)[i]?.any fun v => !v.isLeftOut &&
      ((Declared.ofDocument arcade).drop (i + 1)).all fun w => !decide (v.Collides w)) = true) :
      ∃ e ∈ o.operations, BuiltAt arcade Options.usual e i := by
    obtain ⟨v, found, alone⟩ := (Option.any_eq_true _ _).mp alone
    obtain ⟨kept, others⟩ := (Bool.and_eq_true _ _).mp alone
    refine (stays_iff i v found (by simpa using kept)).mpr fun w later _ => ?_
    simpa using List.all_eq_true.mp others w later
  have three : (Declared.ofDocument arcade).countP (!·.isLeftOut) = 3 := by decide +kernel
  have entries : o.operations.length = 2 := eq_of_beq two
  refine ⟨_, o, run, by decide +kernel, stays 1 (by decide +kernel),
    stays 2 (by decide +kernel), ?_⟩
  omega

/-- The first of two operations on different paths has no entry, since their ids are one. -/
theorem arcade_collides : ∃ o v w, (ofDocument arcade Options.usual).result = .ok o ∧
    (∀ v ∈ Declared.ofDocument arcade, v.IsDerived) ∧
    (Declared.ofDocument arcade)[0]? = some v ∧ (Declared.ofDocument arcade)[2]? = some w ∧
    v.isLeftOut = false ∧ w.isLeftOut = false ∧ v.site.path ≠ w.site.path ∧
    v.id? = some "getPinBall" ∧ w.id? = some "getPinBall" ∧
    Entries.keys o.operations = ["getPinBall", "putPinBall"] ∧
    ¬ ∃ e ∈ o.operations, BuiltAt arcade Options.usual e 0 := by
  obtain ⟨o, succeeds, keys⟩ := Except.exists_of_any
    (x := (ofDocument arcade Options.usual).result)
    (p := fun o => Entries.keys o.operations == ["getPinBall", "putPinBall"]) (by decide +kernel)
  obtain ⟨v, first, found⟩ := (Option.any_eq_true _ _).mp (show
    ((Declared.ofDocument arcade)[0]?.any fun v => v.id? == some "getPinBall" &&
      v.site.path == .text "/pin/ball") = true by decide +kernel)
  obtain ⟨w, last, found'⟩ := (Option.any_eq_true _ _).mp (show
    ((Declared.ofDocument arcade)[2]?.any fun w => w.id? == some "getPinBall" &&
      w.site.path == .text "/pin-ball") = true by decide +kernel)
  obtain ⟨id, path⟩ := (Bool.and_eq_true _ _).mp found
  obtain ⟨id', path'⟩ := (Bool.and_eq_true _ _).mp found'
  have kept {u : Declared} (identified : u.id? = some "getPinBall") : u.isLeftOut = false :=
    Declared.isLeftOut_of_claims (Declared.id?_eq_some.mp identified)
  have later : w ∈ (Declared.ofDocument arcade).drop 1 :=
    List.mem_of_getElem? (i := 1) (by rw [List.getElem?_drop]; exact last)
  refine ⟨o, v, w, succeeds, isDerived_arcade, first, last, kept (eq_of_beq id),
    kept (eq_of_beq id'), ?_, eq_of_beq id, eq_of_beq id', eq_of_beq keys, fun stays => ?_⟩
  · rw [eq_of_beq path, eq_of_beq path']
    decide
  · exact (exists_builtAt_iff succeeds first (eq_of_beq id)).mp stays w later (eq_of_beq id')

end Outline

end ApiOutline
