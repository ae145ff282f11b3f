import ApiOutline.Yaml.Value
import ApiOutline.Proofs.Log
import ApiOutline.Proofs.Tree.Update

/-! Documents that are read from YAML text. Nodes become shapes, and shapes become values. The
entries of a mapping are put in one after the other in the first step, and the second one keeps its
keys, so no two keys of an object are one. -/
namespace ApiOutline.Yaml

variable {α β : Type}

theorem forall₂_of_mapM {f : α → Option β} {l : List α} {bs : List β} (run : l.mapM f = some bs) :
    List.Forall₂ (fun a b => f a = some b) l bs := by
  induction l generalizing bs with
  | nil =>
    cases run
    exact .nil
  | cons a l ih =>
    rw [List.mapM_cons] at run
    obtain ⟨first, first_found, run⟩ := Option.bind_eq_some_iff.mp run
    obtain ⟨rest, rest_found, run⟩ := Option.bind_eq_some_iff.mp run
    cases run
    exact .cons first_found (ih rest_found)

theorem forall_of_mapM {f : α → Option β} {P : β → Prop} {l : List α} {bs : List β}
    (run : l.mapM f = some bs) (holds : ∀ a b, f a = some b → P b) : ∀ b ∈ bs, P b := by
  have results := forall₂_of_mapM run
  clear run
  induction results with
  | nil => exact nofun
  | cons first _ ih => exact List.forall_mem_cons.mpr ⟨holds _ _ first, ih⟩

theorem map_of_mapM {γ : Type} {f : α → Option β} {g : α → γ} {h : β → γ} {l : List α} {bs : List β}
    (run : l.mapM f = some bs) (agree : ∀ a b, f a = some b → h b = g a) : bs.map h = l.map g := by
  have results := forall₂_of_mapM run
  clear run
  induction results with
  | nil => rfl
  | cons first _ ih => rw [List.map_cons, List.map_cons, agree _ _ first, ih]

/-! ### Rows of what is known -/

def Known (P : α → Prop) (row : Array (Option α)) : Prop :=
  ∀ (n : Nat) (a : α), row[n]?.join = some a → P a

section

variable {P : α → Prop} {row : Array (Option α)}

theorem known_nothing (size : Nat) : Known P (Array.replicate size none) := by
  intro n a found
  rw [Array.getElem?_replicate] at found
  split at found <;> cases found

theorem Known.set (known : Known P row) {n : Nat} {a : Option α} (holds : ∀ b, a = some b → P b) :
    Known P (row.setIfInBounds n a) := by
  intro m b found
  by_cases same : n = m
  · subst same
    rw [Array.getElem?_setIfInBounds_self] at found
    split at found
    · exact holds b found
    · cases found
  · rw [Array.getElem?_setIfInBounds_ne same] at found
    exact known m b found

end

/-! ### Shapes -/

def Shape.Formed : Shape → Prop
  | .object entries => (entries.map (·.1.identity)).Nodup
  | _ => True

namespace Shaping

variable {b b' : Shaping} {n : Nat} {key : Scalar}

def Formed (b : Shaping) : Prop := Known Shape.Formed b.shapes

theorem Formed.withShape (formed : b.Formed) {s : Shape} (shape : s.Formed) :
    (b.withShape n s).Formed :=
  Known.set formed fun _ same => Option.some.inj same ▸ shape

theorem Formed.wait (formed : b.Formed) {s : Shape} (shape : s.Formed) : (b.wait n s).Formed :=
  formed.withShape shape

theorem Formed.visit (formed : b.Formed) (run : b.visit n = .ok b') : b'.Formed := by
  unfold Shaping.visit at run
  split at run
  · cases run
    exact formed
  · split at run
    case h_8 =>
      obtain ⟨s, _, run⟩ := Except.bind_eq_ok.mp run
      cases run
      exact formed.withShape trivial
    all_goals cases run
    · exact formed.wait trivial
    · exact formed.wait List.nodup_nil
    · exact formed.wait trivial
    · exact formed.wait trivial

theorem Formed.visitEntry (formed : b.Formed) {entry : Nat × Nat}
    (run : b.visitEntry entry = .ok (b', key)) : b'.Formed := by
  obtain ⟨middle, first, run⟩ := Except.bind_eq_ok.mp run
  split at run
  · obtain ⟨last, second, run⟩ := Except.bind_eq_ok.mp run
    cases run
    exact (formed.visit first).visit second
  · cases run

theorem Formed.entriesOf (formed : b.Formed) {entries : List (Scalar × Nat)}
    (run : b.entriesOf n = .ok (b', entries)) :
    b'.Formed ∧ (entries.map (·.1.identity)).Nodup := by
  unfold Shaping.entriesOf at run
  split at run
  · cases run
  · obtain ⟨graph, _, run⟩ := Except.bind_eq_ok.mp run
    obtain ⟨⟨b₁, found⟩, folded, run⟩ := Except.bind_eq_ok.mp run
    cases run
    refine Except.foldlM_induction
      (P := fun x => x.1.Formed ∧ (x.2.map (·.1.identity)).Nodup)
      ⟨formed, List.nodup_nil⟩ ?_ folded
    rintro ⟨b, entries⟩ entry _ ⟨b', entries'⟩ ⟨formed, distinct⟩ step
    obtain ⟨⟨b₂, key⟩, visited, step⟩ := Except.bind_eq_ok.mp step
    cases step
    exact ⟨formed.visitEntry visited, Entries.nodup_upsert distinct⟩

theorem Formed.fill (formed : b.Formed) (run : b.fill n = .ok b') : b'.Formed := by
  unfold Shaping.fill at run
  split at run
  · obtain ⟨b₁, visited, run⟩ := Except.bind_eq_ok.mp run
    cases run
    refine Formed.withShape ?_ trivial
    exact Except.foldlM_induction formed (fun _ _ _ _ formed step => formed.visit step) visited
  · obtain ⟨⟨b₁, pairs⟩, visited, run⟩ := Except.bind_eq_ok.mp run
    cases run
    refine Formed.withShape ?_ trivial
    refine Except.foldlM_induction (P := fun x => x.1.Formed) formed ?_ visited
    rintro ⟨b, pairs⟩ item _ ⟨b', pairs'⟩ formed step
    obtain ⟨pair, _, step⟩ := Except.bind_eq_ok.mp step
    obtain ⟨b₂, first, step⟩ := Except.bind_eq_ok.mp step
    obtain ⟨b₃, second, step⟩ := Except.bind_eq_ok.mp step
    cases step
    exact (Formed.visit formed first).visit second
  · obtain ⟨⟨b₁, entries⟩, found, run⟩ := Except.bind_eq_ok.mp run
    cases run
    obtain ⟨formed, distinct⟩ := formed.entriesOf found
    exact formed.withShape distinct
  · obtain ⟨⟨b₁, entries⟩, found, run⟩ := Except.bind_eq_ok.mp run
    cases run
    exact (formed.entriesOf found).1.withShape trivial
  · cases run

theorem Formed.finish {fuel : Nat} {row : List Nat} (formed : b.Formed)
    (run : Shaping.finish fuel row b = .ok b') : b'.Formed := by
  induction fuel generalizing row b with
  | zero =>
    cases run
    exact formed
  | succ fuel ih =>
    cases row with
    | nil =>
      rw [Shaping.finish] at run
      split at run
      · cases run
        exact formed
      · exact ih (b := { b with waiting := [] }) formed run
    | cons n more =>
      rw [Shaping.finish] at run
      obtain ⟨next, filled, run⟩ := Except.bind_eq_ok.mp run
      exact ih (formed.fill filled) run

end Shaping

theorem Graph.known_of_shapes {g : Graph} {root : Nat} {shapes : Array (Option Shape)}
    (run : g.shapes root = .ok shapes) : Known Shape.Formed shapes := by
  obtain ⟨b, visited, run⟩ := Except.bind_eq_ok.mp run
  obtain ⟨b', finished, run⟩ := Except.bind_eq_ok.mp run
  cases run
  have start : (Shaping.start g).Formed := known_nothing g.size
  exact (start.visit visited).finish finished

/-! ### Values -/

namespace Values

variable {shapes : Array (Option Shape)} {known : Values}

def Formed (known : Values) : Prop := Known (·.wellFormed = true) known

theorem Formed.value (formed : known.Formed) {s : Shape} (shape : s.Formed) {loop : Option Nat}
    {t : Tree} (found : s.value? known loop = some t) : t.wellFormed = true := by
  cases s with
  | scalar s =>
    cases found
    rfl
  | set members =>
    cases found
    rfl
  | list items =>
    obtain ⟨ts, values, rfl⟩ := Option.map_eq_some_iff.mp found
    exact Tree.wellFormedItems_iff.mpr (forall_of_mapM values fun n t => formed n t)
  | pairs items =>
    obtain ⟨ts, values, rfl⟩ := Option.map_eq_some_iff.mp found
    refine Tree.wellFormedItems_iff.mpr (forall_of_mapM values fun p t pair => ?_)
    obtain ⟨first, is_first, pair⟩ := Option.bind_eq_some_iff.mp pair
    obtain ⟨second, is_second, pair⟩ := Option.bind_eq_some_iff.mp pair
    cases pair
    exact (Bool.and_eq_true _ _).mpr ⟨formed _ _ is_first, formed _ _ is_second⟩
  | object entries =>
    obtain ⟨es, values, rfl⟩ := Option.map_eq_some_iff.mp found
    refine Tree.wellFormed_object.mpr ⟨?_, forall_of_mapM values fun e e' value => ?_⟩
    · have keys : es.map (·.1.identity) = entries.map (·.1.identity) := by
        refine map_of_mapM values fun e e' value => ?_
        obtain ⟨t, _, rfl⟩ := Option.map_eq_some_iff.mp value
        rfl
      rw [keys]
      exact shape
    · obtain ⟨t, is_value, rfl⟩ := Option.map_eq_some_iff.mp value
      exact formed _ _ is_value

theorem Formed.getD (formed : known.Formed) (n : Nat) :
    ((known[n]?.join).getD .null).wellFormed = true := by
  cases found : known[n]?.join with
  | none => rfl
  | some t => exact formed n t found

variable (shaped : Known Shape.Formed shapes)
include shaped

theorem Formed.of_shape (formed : known.Formed) {n : Nat} {loop : Option Nat} {t : Tree}
    (found : (shapes[n]?.join).bind (Shape.value? known loop) = some t) : t.wellFormed = true := by
  obtain ⟨s, is_shape, value⟩ := Option.bind_eq_some_iff.mp found
  exact formed.value (shaped n s is_shape) value

theorem Formed.learn (formed : known.Formed) (n : Nat) : (known.learn shapes n).Formed := by
  unfold Values.learn
  split
  · exact formed
  · exact Known.set formed fun _ found => formed.of_shape shaped found

theorem Formed.settle (fuel : Nat) (formed : known.Formed) :
    (Values.settle shapes fuel known).Formed := by
  induction fuel generalizing known with
  | zero => exact formed
  | succ fuel ih =>
    have learnt : ((List.range shapes.size).reverse.foldl (Values.learn shapes) known).Formed :=
      List.foldlRecOn _ _ formed fun _ formed _ _ => Formed.learn shaped formed _
    rw [Values.settle]
    split
    · exact learnt
    · exact ih learnt

theorem Formed.layer (circular : List Nat) (formed : known.Formed) :
    (Values.layer shapes circular known).Formed :=
  List.foldlRecOn _ _ formed fun _ upper _ _ =>
    Known.set upper fun _ found => formed.of_shape shaped found

theorem Formed.layers (circular : List Nat) (count : Nat) (formed : known.Formed) :
    (Values.layers shapes circular count known).Formed := by
  induction count generalizing known with
  | zero => exact formed
  | succ count ih => exact ih (formed.layer shaped circular)

end Values

theorem Graph.wellFormed_of_value {g : Graph} {root : Nat} {t : Tree}
    (run : g.value root = .ok t) : t.wellFormed = true := by
  obtain ⟨shapes, shaped, run⟩ := Except.bind_eq_ok.mp run
  have shaped := known_of_shapes shaped
  have nothing : Values.Formed (Array.replicate shapes.size none) := known_nothing shapes.size
  have settled := nothing.settle shaped (shapes.size + 1)
  dsimp only at run
  split at run
  · rename_i found
    cases run
    exact settled root t found
  · cases run
    refine Values.Formed.getD (Values.Formed.layers shaped _ _ ?_) root
    exact List.foldlRecOn _ _ settled fun _ lower _ _ =>
      Known.set lower fun _ same => Option.some.inj same ▸ rfl

theorem wellFormed_of_read [Machine] {text : List Char} {t : Tree} (h : read text = .ok t) :
    t.wellFormed = true := by
  obtain ⟨node, _, h⟩ := Except.bind_eq_ok.mp h
  split at h
  · cases h
    rfl
  · exact Graph.wellFormed_of_value h

end ApiOutline.Yaml
