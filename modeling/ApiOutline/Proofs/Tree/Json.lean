import ApiOutline.Proofs.Log
import ApiOutline.Proofs.Tree.Hereditary
import ApiOutline.Proofs.Tree.Update
import ApiOutline.Tree.Portable

/-! Values of JSON: what plain JSON can hold as it is. Their parts are values of JSON, and so is
every value in its portable form. -/
namespace ApiOutline

namespace Scalar

def isJson : Scalar → Bool
  | .null => true
  | .bool _ => true
  | .int _ => true
  | .float f => f.isFinite
  | .text _ => true
  | .date _ => false
  | .moment _ => false
  | .bytes _ => false

def isText : Scalar → Bool
  | .text _ => true
  | _ => false

@[simp] theorem isText_text (s : String) : (text s).isText = true := rfl

theorem isText_iff {k : Scalar} : k.isText = true ↔ ∃ s, k = .text s := by
  cases k <;> simp [isText]

theorem isJson_of_portable {s u : Scalar} (found : s.portable = .ok u) : u.isJson = true := by
  cases s with
  | float f =>
    cases found
    split
    · assumption
    · rfl
  | bytes bs =>
    obtain ⟨_, _, rfl⟩ := Except.map_eq_ok.mp found
    rfl
  | _ =>
    cases found
    rfl

end Scalar

namespace Tree

mutual

/-- A scalar of JSON, a list of values of JSON, or an object of such values under texts. A
collection that contains itself has no end, and is none. -/
def isJson : Tree → Bool
  | .scalar s => s.isJson
  | .pair _ _ => false
  | .set _ => false
  | .list items loop => loop.isNone && itemsAreJson items
  | .object entries loop => loop.isNone && entriesAreJson entries

def itemsAreJson : List Tree → Bool
  | [] => true
  | t :: ts => t.isJson && itemsAreJson ts

def entriesAreJson : List (Scalar × Tree) → Bool
  | [] => true
  | (k, v) :: rest => k.isText && v.isJson && entriesAreJson rest

end

theorem itemsAreJson_iff {items : List Tree} :
    itemsAreJson items = true ↔ ∀ t ∈ items, t.isJson = true := by
  induction items with
  | nil => simp [itemsAreJson]
  | cons t ts ih => simp [itemsAreJson, ih]

theorem entriesAreJson_iff {entries : Object} : entriesAreJson entries = true ↔
    ∀ e ∈ entries, e.1.isText = true ∧ e.2.isJson = true := by
  induction entries with
  | nil => simp [entriesAreJson]
  | cons e es ih => simp [entriesAreJson, ih]

theorem isJson_object {o : Object} {loop : Option Nat} : (Tree.object o loop).isJson = true ↔
    loop = none ∧ ∀ e ∈ o, e.1.isText = true ∧ e.2.isJson = true := by
  rw [isJson, Bool.and_eq_true, Option.isNone_iff_eq_none, entriesAreJson_iff]

@[simp] theorem isJson_text (s : String) : (text s).isJson = true := rfl

@[simp] theorem isJson_bool (b : Bool) : (bool b).isJson = true := rfl

@[simp] theorem isJson_null : null.isJson = true := rfl

@[simp] theorem isJson_textOrNull (s : Option String) : (textOrNull s).isJson = true := by
  cases s <;> rfl

@[simp] theorem isJson_list {items : List Tree} :
    (Tree.list items).isJson = true ↔ ∀ t ∈ items, t.isJson = true := by
  simp [isJson, itemsAreJson_iff]

@[simp] theorem isJson_textList (ss : List String) : (textList ss).isJson = true := by
  simp [textList]

@[simp] theorem isJson_record {fields : List (String × Tree)} :
    (record fields).isJson = true ↔ ∀ f ∈ fields, f.2.isJson = true := by
  simp only [record, isJson_object, true_and, List.forall_mem_map, Scalar.isText_text]

theorem isJson_record_mapValues {α : Type} {f : α → Tree} (each : ∀ a, (f a).isJson = true)
    (es : List (String × α)) : (record (Entries.mapValues f es)).isJson = true := by
  simp only [isJson_record, Entries.mapValues, List.forall_mem_map, each, implies_true]

theorem isJson_hereditary : Hereditary (·.isJson = true) where
  null := rfl
  empty := rfl
  object whole := isJson_object.mpr ⟨rfl, (isJson_object.mp whole).2⟩
  entry whole he := ((isJson_object.mp whole).2 _ he).2
  item whole ht := itemsAreJson_iff.mp ((Bool.and_eq_true _ _).mp whole).2 _ ht

/-! ### Portable forms -/

theorem isJson_of_ofEntries {es : List (Scalar × Tree)}
    (each : ∀ e ∈ es, e.1.isText = true ∧ e.2.isJson = true) :
    (Tree.object (Object.ofEntries es)).isJson = true := by
  refine isJson_object.mpr ⟨rfl, ?_⟩
  refine List.foldlRecOn (motive := fun (o : Object) => ∀ e ∈ o, e.1.isText = true ∧
    e.2.isJson = true) es _ (by simp) fun o kept f hf e he => ?_
  rcases Object.mem_of_mem_insert he with ⟨key, value⟩ | old
  · obtain ⟨text, value'⟩ := each f hf
    obtain ⟨s, is_text⟩ := Scalar.isText_iff.mp text
    rw [is_text] at key
    exact ⟨Scalar.isText_iff.mpr ⟨s, Scalar.identity_eq_text.mp key⟩, value ▸ value'⟩
  · exact kept e old

variable [Machine]

theorem of_mem_portableItems {levels : Nat} {ts us : List Tree}
    (found : portableItems levels ts = .ok us) :
    ∀ u ∈ us, ∃ t ∈ ts, t.portableIn levels = .ok u := by
  induction ts generalizing us with
  | nil =>
    cases found
    simp
  | cons t ts ih =>
    obtain ⟨first, head, found⟩ := Except.bind_eq_ok.mp found
    obtain ⟨rest, tail, found⟩ := Except.bind_eq_ok.mp found
    cases found
    simp only [List.mem_cons, forall_eq_or_imp, exists_eq_or_imp]
    exact ⟨.inl head, fun u hu => .inr (ih tail u hu)⟩

theorem of_mem_portableEntries {levels : Nat} {es fs : List (Scalar × Tree)}
    (found : portableEntries levels es = .ok fs) :
    ∀ f ∈ fs, f.1.isText = true ∧ ∃ e ∈ es, e.2.portableIn levels = .ok f.2 := by
  induction es generalizing fs with
  | nil =>
    cases found
    simp
  | cons e es ih =>
    obtain ⟨key, _, found⟩ := Except.bind_eq_ok.mp found
    obtain ⟨value, head, found⟩ := Except.bind_eq_ok.mp found
    obtain ⟨rest, tail, found⟩ := Except.bind_eq_ok.mp found
    cases found
    simp only [List.mem_cons, forall_eq_or_imp, exists_eq_or_imp]
    refine ⟨⟨rfl, .inl head⟩, fun f hf => ?_⟩
    obtain ⟨text, below⟩ := ih tail f hf
    exact ⟨text, .inr below⟩

theorem isJson_of_portableIn {levels : Nat} {t u : Tree} (found : t.portableIn levels = .ok u) :
    u.isJson = true := by
  induction t using shape_induction generalizing levels u with
  | scalar s =>
    obtain ⟨v, portable, rfl⟩ := Except.map_eq_ok.mp found
    exact Scalar.isJson_of_portable portable
  | set members =>
    obtain ⟨items, all, found⟩ := Except.bind_eq_ok.mp found
    cases found
    simp only [isJson_list, List.forall_mem_map]
    intro v hv
    obtain ⟨s, _, portable⟩ := Except.exists_of_mem_mapM all hv
    exact Scalar.isJson_of_portable portable
  | sequence t items elements each =>
    cases t with
    | pair a b =>
      cases elements
      unfold portableIn at found
      split at found
      · cases found
      · obtain ⟨first, left, found⟩ := Except.bind_eq_ok.mp found
        obtain ⟨second, right, found⟩ := Except.bind_eq_ok.mp found
        cases found
        simp only [isJson_list, List.mem_pair, forall_eq_or_imp, forall_eq]
        exact ⟨each a (by simp) left, each b (by simp) right⟩
    | list items loop =>
      cases elements
      unfold portableIn at found
      split at found
      · cases found
      · obtain ⟨us, all, found⟩ := Except.bind_eq_ok.mp found
        cases found
        refine isJson_list.mpr fun u hu => ?_
        obtain ⟨t, ht, portable⟩ := of_mem_portableItems all u hu
        exact each t ht portable
    | _ => cases elements
  | object entries loop each =>
    unfold portableIn at found
    split at found
    · cases found
    · obtain ⟨fs, all, found⟩ := Except.bind_eq_ok.mp found
      cases found
      refine isJson_of_ofEntries fun f hf => ?_
      obtain ⟨text, e, he, portable⟩ := of_mem_portableEntries all f hf
      exact ⟨text, each e he portable⟩

theorem isJson_of_portable {t u : Tree} (found : t.portable = .ok u) : u.isJson = true :=
  isJson_of_portableIn found

end Tree

end ApiOutline
