import ApiOutline.Proofs.Document.Comparison
import ApiOutline.Proofs.Tree.Canonical

/-! Truth values in values that are found equal. Where a value stands, a truth value has nothing but
itself in its place. Keys of objects and members of sets are told apart by their identities alone,
and there a truth value may have the number one or zero in its place. -/
namespace ApiOutline

namespace Scalar

/-- The number that is one key with a truth value: one for true, and zero for false. -/
inductive CountsAs (b : Bool) : Scalar → Prop where
  | int : CountsAs b (.int (if b then 1 else 0))
  | float {f : Number.Binary64} : f.magnitude? = some (.exact (if b then 1 else 0)) →
      CountsAs b (.float f)

theorem identity_bool (b : Bool) :
    (Scalar.bool b).identity = .number (.exact (if b then 1 else 0)) := rfl

theorem identity_eq_bool {k : Scalar} {b : Bool} :
    k.identity = (Scalar.bool b).identity ↔ k = .bool b ∨ CountsAs b k := by
  rw [identity_bool]
  constructor
  · intro same
    cases k with
    | bool c => cases b <;> cases c <;> simp_all [identity]
    | int i =>
      refine .inr ?_
      have value : (i : Rat) = if b then 1 else 0 := by simpa [identity] using same
      obtain rfl : i = if b then 1 else 0 := by
        cases b <;> exact_mod_cast value
      exact .int
    | float f =>
      rw [identity_float] at same
      split at same
      · rename_i magnitude
        cases same
        exact .inr (.float magnitude)
      · cases same
    | moment m =>
      rw [identity_moment] at same
      split at same <;> cases same
    | _ => cases same
  · rintro (rfl | counts)
    · rfl
    · cases counts with
      | int => cases b <;> simp [identity]
      | float magnitude => rw [identity_float, magnitude]

theorem CountsAs.ne_bool {b c : Bool} {k : Scalar} (counts : CountsAs b k) : k ≠ .bool c := by
  rintro rfl
  cases counts

end Scalar

namespace Tree

variable {l r t u : Tree}

/-- Values in one place of two values: these themselves, the elements that they have at one index,
and what stands under keys that are one. -/
inductive Faces (l r : Tree) : Tree → Tree → Prop where
  | whole : Faces l r l r
  | element {t u a b : Tree} {ts us : List Tree} {i : Nat} : Faces l r t u →
      t.elements? = some ts → u.elements? = some us → ts[i]? = some a → us[i]? = some b →
      Faces l r a b
  | entry {o p : Object} {loop loop' : Option Nat} {d e : Scalar × Tree} :
      Faces l r (.object o loop) (.object p loop') → d ∈ o → e ∈ p →
      d.1.identity = e.1.identity → Faces l r d.2 e.2

/-- Scalars in one place that are no values there: keys that are one, and members of sets that
are. -/
inductive Marks (l r : Tree) : Scalar → Scalar → Prop where
  | key {o p : Object} {loop loop' : Option Nat} {d e : Scalar × Tree} :
      Faces l r (.object o loop) (.object p loop') → d ∈ o → e ∈ p →
      d.1.identity = e.1.identity → Marks l r d.1 e.1
  | member {m n : List Scalar} {a b : Scalar} : Faces l r (.set m) (.set n) → a ∈ m → b ∈ n →
      a.identity = b.identity → Marks l r a b

theorem Marks.identity {j k : Scalar} (marks : Marks l r j k) : j.identity = k.identity := by
  cases marks with
  | key _ _ _ same => exact same
  | member _ _ _ same => exact same

/-- Of two scalars in one place either both are a truth value or neither, unless one of them is its
number. -/
theorem Marks.bool_iff {j k : Scalar} (marks : Marks l r j k) (b : Bool) :
    (j = .bool b ↔ k = .bool b) ↔
      ¬ (j = .bool b ∧ Scalar.CountsAs b k) ∧ ¬ (Scalar.CountsAs b j ∧ k = .bool b) := by
  constructor
  · intro same
    constructor
    · rintro ⟨truth, counts⟩
      exact counts.ne_bool (same.mp truth)
    · rintro ⟨counts, truth⟩
      exact counts.ne_bool (same.mpr truth)
  · rintro ⟨right, left⟩
    constructor
    · intro truth
      have one : k.identity = (Scalar.bool b).identity := truth ▸ marks.identity.symm
      exact (Scalar.identity_eq_bool.mp one).resolve_right fun counts => right ⟨truth, counts⟩
    · intro truth
      have one : j.identity = (Scalar.bool b).identity := truth ▸ marks.identity
      exact (Scalar.identity_eq_bool.mp one).resolve_right fun counts => left ⟨counts, truth⟩

/-- Whether two values have the same truth values in the same places, keys and members of sets
included. -/
structure KeepsTruth (l r : Tree) : Prop where
  values : ∀ t u, Faces l r t u → ∀ b, t = .bool b ↔ u = .bool b
  marks : ∀ j k, Marks l r j k → ∀ b, j = .bool b ↔ k = .bool b

theorem same_of_faces (formed : r.wellFormed = true) (equal : l.same r = true)
    (faces : Faces l r t u) : u.wellFormed = true ∧ t.same u = true := by
  -- from the whole values down; that keys are distinct has to be carried along for the look-ups
  induction faces with
  | whole => exact ⟨formed, equal⟩
  | @element t u a b ts us i _ left right first second ih =>
    obtain ⟨formed_u, equal_u⟩ := ih
    rw [same_sequence left right] at equal_u
    obtain ⟨hi, rfl⟩ := List.getElem?_eq_some_iff.mp first
    obtain ⟨hi', rfl⟩ := List.getElem?_eq_some_iff.mp second
    exact ⟨(wellFormed_elements right).mp formed_u _ (List.getElem_mem hi'),
      (sameItems_iff.mp equal_u).get hi hi'⟩
  | @entry o p _ _ d e _ hd he key ih =>
    obtain ⟨formed_p, equal_p⟩ := ih
    obtain ⟨distinct, values⟩ := wellFormed_object.mp formed_p
    simp only [same, Bool.and_eq_true, sameEntries_iff] at equal_p
    obtain ⟨w, found, equal_w⟩ := equal_p.2 d hd
    -- the keys of the second object are distinct, so the look-up leads to the entry that is faced
    rw [Object.get?_congr p key, Object.get?_of_mem distinct he] at found
    cases found
    exact ⟨values e he, equal_w⟩

theorem bool_iff_of_same (equal : t.same u = true) (b : Bool) : t = .bool b ↔ u = .bool b := by
  have scalars {x y : Scalar} (same : x.same y = true) : x = .bool b ↔ y = .bool b := by
    obtain ⟨_, kind, key⟩ := Scalar.same_iff.mp same
    cases x <;> cases y <;> simp_all [Scalar.isBool, Scalar.same]
  cases same_iff_matches.mp equal with
  | scalar same => simpa [Tree.bool] using scalars same
  | set => simp [Tree.bool]
  | sequence left right => cases t <;> cases u <;> simp_all [elements?, Tree.bool]
  | object => simp [Tree.bool]

theorem Faces.plain (plain : Plain l) (faces : Faces l r t u) : Plain t := by
  induction faces with
  | whole => exact plain
  | element _ left _ first _ ih =>
    cases ih with
    | list items =>
      cases left
      exact items _ (List.mem_of_getElem? first)
    | _ => cases left
  | entry _ hd _ _ ih =>
    cases ih with
    | object _ values => exact values _ hd

theorem Marks.text (plain : Plain l) {j k : Scalar} (marks : Marks l r j k) :
    ∃ s, j = .text s ∧ k = .text s := by
  cases marks with
  | key faces hd _ same =>
    cases faces.plain plain with
    | object keys _ =>
      obtain ⟨s, text⟩ := keys.texts _ hd
      exact ⟨s, text, Scalar.eq_text_of_identity (same.symm.trans (congrArg Scalar.identity text))⟩
  | member faces => cases faces.plain plain

/-- Two values that are found equal, of which the second was loaded, have the same truth values in
the same places where values stand. They have so for keys and members of sets as well if and only if
no truth value among these has its number in its place. None has it if the first value consists of
what JSON has. -/
theorem truth_kept_iff [Machine] (l r : Tree) (loaded : Loaded r) (equal : l.compare r = .ok true) :
    (∀ t u, Faces l r t u → ∀ b, t = .bool b ↔ u = .bool b) ∧
    (KeepsTruth l r ↔ ∀ j k b, Marks l r j k →
      ¬ (j = .bool b ∧ Scalar.CountsAs b k) ∧ ¬ (Scalar.CountsAs b j ∧ k = .bool b)) ∧
    (Plain l → KeepsTruth l r) := by
  have values : ∀ t u, Faces l r t u → ∀ b, t = .bool b ↔ u = .bool b := by
    intro t u faces
    obtain ⟨_, same⟩ := same_of_faces loaded.wellFormed (same_of_compare equal) faces
    exact bool_iff_of_same same
  refine ⟨values, ?_, ?_⟩
  · constructor
    · intro keeps j k b marks
      exact (marks.bool_iff b).mp (keeps.marks j k marks b)
    · intro apart
      exact ⟨values, fun j k marks b => (marks.bool_iff b).mpr (apart j k b marks)⟩
  · intro plain
    constructor
    · exact values
    · intro j k marks b
      obtain ⟨s, rfl, rfl⟩ := marks.text plain
      simp

def switch (key first : Scalar) : Object :=
  [(key, .list [.scalar first, .scalar (.bool true)])]

def isSwitchOf (key first : Scalar) : Object → Bool
  | [(k, .list [.scalar v, .scalar (.bool true)] none)] => k = key && v = first
  | _ => false

theorem eq_switch {key first : Scalar} {o : Object} (h : isSwitchOf key first o = true) :
    o = switch key first := by
  unfold isSwitchOf at h
  split at h
  · simp only [Bool.and_eq_true, decide_eq_true_eq] at h
    obtain ⟨rfl, rfl⟩ := h
    rfl
  · cases h

def jotted (text : String) : Surroundings where
  system := "Linux"
  environment := []
  directory := Path.ofText "/"
  directories := []
  files := []
  input := text
  fetch := fun _ => .failure ""
  isTerminal := false

theorem loaded_switch [Machine] (text : String) {key first : Scalar}
    (read : (Source.load (jotted text) "-").result.toOption.any (isSwitchOf key first) = true) :
    Loaded (.object (switch key first)) := by
  obtain ⟨o, loaded, shape⟩ := Except.exists_of_any read
  exact .document (eq_switch shape ▸ loaded)

def decimalOne : Scalar := .float (.finite false (2 ^ 52) (-52))

theorem switch_kept :
    Loaded (.object (switch (.text "lamp") decimalOne)) ∧
    Tree.compare (.object (switch (.text "lamp") (.int 1)))
      (.object (switch (.text "lamp") decimalOne)) = .ok true ∧
    KeepsTruth (.object (switch (.text "lamp") (.int 1)))
      (.object (switch (.text "lamp") decimalOne)) := by
  have loaded : Loaded (.object (switch (.text "lamp") decimalOne)) :=
    loaded_switch "lamp: [1.0, yes]" (by decide +kernel)
  have equal : Tree.compare (.object (switch (.text "lamp") (.int 1)))
      (.object (switch (.text "lamp") decimalOne)) = .ok true := rfl
  have items : ∀ t ∈ [Tree.scalar (.int 1), .bool true], Plain t :=
    List.forall_mem_cons.mpr ⟨.int 1, List.forall_mem_singleton.mpr (.bool true)⟩
  have plain : Plain (.record [("lamp", .list [.scalar (.int 1), .bool true])]) :=
    plain_record (by decide) (List.forall_mem_singleton.mpr (.list items))
  exact ⟨loaded, equal, (truth_kept_iff _ _ loaded equal).2.2 plain⟩

/-- Under a truth value for its key and under its number a document is found equal. -/
theorem switch_confused :
    Loaded (.object (switch (.bool true) (.int 1))) ∧ Loaded (.object (switch (.int 1) (.int 1))) ∧
    Tree.compare (.object (switch (.bool true) (.int 1))) (.object (switch (.int 1) (.int 1))) =
      .ok true ∧
    ¬ KeepsTruth (.object (switch (.bool true) (.int 1))) (.object (switch (.int 1) (.int 1))) := by
  refine ⟨loaded_switch "on: [1, yes]" (by decide +kernel),
    loaded_switch "1: [1, yes]" (by decide +kernel), rfl, fun keeps => ?_⟩
  have marks : Marks (.object (switch (.bool true) (.int 1))) (.object (switch (.int 1) (.int 1)))
      (.bool true) (.int 1) := .key .whole List.mem_cons_self List.mem_cons_self rfl
  cases (keeps.marks _ _ marks true).mp rfl

end Tree

end ApiOutline
