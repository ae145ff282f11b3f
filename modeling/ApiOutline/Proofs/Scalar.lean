import ApiOutline.Tree.Same

/-! Equality of scalars. Two values are equal when they are the same as keys, neither or both are
truth values, and they are numbers if they claim to be. -/
namespace ApiOutline.Scalar

open Number

def isNaN : Scalar → Bool
  | .float f => f.magnitude?.isNone
  | _ => false

def isBool : Scalar → Bool
  | .bool _ => true
  | _ => false

theorem identity_float (f : Binary64) : (Scalar.float f).identity =
    match f.magnitude? with
    | some m => .number m
    | none => .notANumber f.origin := by
  cases h : f.magnitude? <;> simp [identity, h]

theorem identity_moment (m : Calendar.Moment) : (Scalar.moment m).identity =
    match m.instant? with
    | some t => .instant t
    | none => .local m := by
  cases h : m.instant? <;> simp [identity, h]

theorem eq_text_of_identity {k : Scalar} {s : String} (same_key : k.identity = .text s) :
    k = .text s := by
  cases k with
  | float f =>
    rw [identity_float] at same_key
    split at same_key <;> cases same_key
  | moment m =>
    rw [identity_moment] at same_key
    split at same_key <;> cases same_key
  | text t =>
    cases same_key
    rfl
  | _ => cases same_key

/-- Apart from what is not a number, values are told apart as keys are, but for truth values. -/
theorem same_iff {a b : Scalar} :
    a.same b = true ↔ a.isNaN = false ∧ a.isBool = b.isBool ∧ a.identity = b.identity := by
  cases a <;> cases b
  all_goals simp only [same, isNaN, isBool, identity_float, identity_moment]
  case int.int i j => simp [identity]
  all_goals grind [identity]

theorem isNaN_of_identity {a b : Scalar} (same_key : a.identity = b.identity) :
    a.isNaN = b.isNaN := by
  cases a <;> cases b
  all_goals grind [identity, isNaN, identity_float, identity_moment]

theorem same_symm {a b : Scalar} (h : a.same b = true) : b.same a = true := by
  obtain ⟨number, kind, key⟩ := same_iff.mp h
  exact same_iff.mpr ⟨isNaN_of_identity key ▸ number, kind.symm, key.symm⟩

theorem same_trans {a b c : Scalar} (hab : a.same b = true) (hbc : b.same c = true) :
    a.same c = true := by
  obtain ⟨number, kind, key⟩ := same_iff.mp hab
  obtain ⟨_, kind', key'⟩ := same_iff.mp hbc
  exact same_iff.mpr ⟨number, kind.trans kind', key.trans key'⟩

theorem same_self {a : Scalar} (number : a.isNaN = false) : a.same a = true :=
  same_iff.mpr ⟨number, rfl, rfl⟩

theorem sameMembers_iff {l r : List Scalar} : sameMembers l r = true ↔
    (∀ s ∈ l, ∃ t ∈ r, t.identity = s.identity) ∧ ∀ s ∈ r, ∃ t ∈ l, t.identity = s.identity := by
  simp [sameMembers]

theorem sameMembers_symm {l r : List Scalar} (h : sameMembers l r = true) :
    sameMembers r l = true :=
  sameMembers_iff.mpr (sameMembers_iff.mp h).symm

theorem sameMembers_trans {l m r : List Scalar} (hl : sameMembers l m = true)
    (hr : sameMembers m r = true) : sameMembers l r = true := by
  have chain {l m r : List Scalar} (hl : ∀ s ∈ l, ∃ t ∈ m, t.identity = s.identity)
      (hr : ∀ s ∈ m, ∃ t ∈ r, t.identity = s.identity) :
      ∀ s ∈ l, ∃ t ∈ r, t.identity = s.identity := by
    intro s hs
    obtain ⟨t, ht, key⟩ := hl s hs
    obtain ⟨u, hu, key'⟩ := hr t ht
    exact ⟨u, hu, key'.trans key⟩
  have left := sameMembers_iff.mp hl
  have right := sameMembers_iff.mp hr
  exact sameMembers_iff.mpr ⟨chain left.1 right.1, chain right.2 left.2⟩

theorem sameMembers_self (l : List Scalar) : sameMembers l l = true :=
  sameMembers_iff.mpr ⟨fun s hs => ⟨s, hs, rfl⟩, fun s hs => ⟨s, hs, rfl⟩⟩

end ApiOutline.Scalar
