import Mathlib.Data.List.Nodup
import ApiOutline.Options
import ApiOutline.Proofs.Log
import ApiOutline.Proofs.Tree.Update

/-! Options that are read from an object, and options that are put into one. A field is read from
the one spelling under which it is given; all other keys are passed on. -/
namespace ApiOutline

namespace Options

def values (o : Options) : List (Field × Bool) :=
  [(subOperationsField, o.addSubOperations), (viewerField, o.viewer), (strictField, o.strict)]

def isSpelling (k : Scalar) : Bool := allFields.any fun f => k == .text f.camel || k == .text f.name

/-- Both spellings of the only field that has two are keys of an object. -/
def GivenTwice (o : Object) : Prop :=
  Object.has o "addSubOperations" = true ∧ Object.has o "add_sub_operations" = true

namespace Field

variable {f : Field} {o : Object}

def Gives (f : Field) (o : Object) (b : Bool) : Prop :=
  ∃ spelling ∈ [f.camel, f.name], ∃ t, Object.get? o (.text spelling) = some t ∧ truth t = .ok b

def IsAbsent (f : Field) (o : Object) : Prop :=
  ∀ spelling ∈ [f.camel, f.name], Object.get? o (.text spelling) = none

theorem given?_eq_none : f.given? o = none ↔ f.IsAbsent o := by
  simp only [given?, Object.has, IsAbsent, List.forall_mem_cons, Option.isSome_iff_ne_none]
  by_cases camel : Object.get? o (.text f.camel) = none
  · by_cases name : Object.get? o (.text f.name) = none
    · simp [camel, name]
    · simp [camel, name]
  · simp [camel]

theorem mem_of_given? {spelling : String} (h : f.given? o = some spelling) :
    spelling ∈ [f.camel, f.name] ∧ ∃ t, Object.get? o (.text spelling) = some t := by
  unfold given? at h
  split at h
  · rename_i found
    cases h
    exact ⟨List.mem_cons_self, Option.isSome_iff_exists.mp found⟩
  · split at h
    · rename_i found
      cases h
      exact ⟨by simp, Option.isSome_iff_exists.mp found⟩
    · cases h

theorem read_of_absent (absent : f.IsAbsent o) : f.read o = .ok f.usual := by
  simp only [read, given?_eq_none.mpr absent]

theorem read_of_given {spelling : String} {t : Tree} (given : f.given? o = some spelling)
    (found : Object.get? o (.text spelling) = some t) :
    f.read o = (truth t).mapError fun e => ⟨[.name spelling], e⟩ := by
  simp only [read, given, Object.field, found, Option.getD_some]

theorem read_of_name {t : Tree} (found : Object.get? o (.text f.name) = some t)
    (alone : f.camel ≠ f.name → Object.get? o (.text f.camel) = none) :
    f.read o = (truth t).mapError fun e => ⟨[.name f.name], e⟩ := by
  refine read_of_given ?_ found
  by_cases same : f.camel = f.name
  · simp [given?, Object.has, same, found]
  · simp [given?, Object.has, alone same, found]

theorem read_eq_ok {b : Bool} (h : f.read o = .ok b) :
    f.Gives o b ∨ f.IsAbsent o ∧ b = f.usual := by
  cases given : f.given? o with
  | none =>
    have absent := given?_eq_none.mp given
    rw [read_of_absent absent] at h
    cases h
    exact .inr ⟨absent, rfl⟩
  | some spelling =>
    obtain ⟨own, t, found⟩ := mem_of_given? given
    rw [read_of_given given found] at h
    cases is_truth : truth t with
    | error e =>
      rw [is_truth] at h
      cases h
    | ok b' =>
      rw [is_truth] at h
      cases h
      exact .inl ⟨spelling, own, t, found, is_truth⟩

end Field

/-! ### Reading -/

def isRead (o : Object) (k : Scalar) : Bool :=
  (allFields.filterMap (Field.given? · o)).any fun spelling => k == .text spelling

structure Reads (o : Object) (r : Reading) : Prop where
  fields : ∀ e ∈ r.options.values, e.1.read o = .ok e.2
  extra : r.options.extra = o.filter fun e => !isRead o e.1
  given : r.given = allFields.filter fun f => (f.given? o).isSome

variable {o : Object} {r : Reading} {loop : Option Nat}

theorem read_eq_ok : read (.object o loop) = .ok r ↔ Reads o r := by
  constructor
  · intro h
    simp only [read] at h
    split at h
    · rename_i subOperations viewer strict
      cases h
      refine ⟨?_, rfl, rfl⟩
      simp only [values, List.forall_mem_cons]
      exact ⟨subOperations, viewer, strict, nofun⟩
    · cases h
  · rintro ⟨fields, extra, given⟩
    simp only [values, List.forall_mem_cons] at fields
    obtain ⟨subOperations, viewer, strict, _⟩ := fields
    obtain ⟨⟨a, v, s, passed⟩, fields⟩ := r
    simp only [read, subOperations, viewer, strict]
    dsimp only at extra given
    rw [extra, given]
    rfl

theorem exists_of_read {t : Tree} (h : read t = .ok r) :
    ∃ o loop, t = .object o loop ∧ Reads o r := by
  cases t with
  | object o loop => exact ⟨o, loop, rfl, read_eq_ok.mp h⟩
  | _ => cases h

theorem exists_of_fields {options : Options}
    (fields : ∀ e ∈ options.values, e.1.read o = .ok e.2) :
    ∃ r, read (.object o loop) = .ok r ∧ r.options.values = options.values := by
  let extra := o.filter fun e => !isRead o e.1
  let given := allFields.filter fun f => (f.given? o).isSome
  exact ⟨⟨{ options with extra := extra }, given⟩, read_eq_ok.mpr ⟨fields, rfl, rfl⟩, rfl⟩

theorem read_eq_error {viewer strict : Bool} (readsViewer : viewerField.read o = .ok viewer)
    (readsStrict : strictField.read o = .ok strict) {faults : List FieldFault} :
    read (.object o loop) = .error faults ↔
      ∃ fault, subOperationsField.read o = .error fault ∧ faults = [fault] := by
  simp only [read, readsViewer, readsStrict]
  cases subOperationsField.read o with
  | ok b => exact ⟨nofun, nofun⟩
  | error fault =>
    constructor
    · rintro ⟨⟩
      exact ⟨fault, rfl, rfl⟩
    · rintro ⟨_, ⟨⟩, rfl⟩
      rfl

theorem reads_nil : Reads [] ⟨usual, []⟩ :=
  read_eq_ok.mp (show read (.object []) = .ok ⟨usual, []⟩ from rfl)

theorem isRead_congr {a k : Scalar} (same : a.identity = k.identity) :
    isRead o a = isRead o k := by
  refine Bool.eq_iff_iff.mpr ?_
  simp only [isRead, List.any_eq_true, beq_iff_eq, ← Scalar.identity_eq_text, same]

theorem Reads.get?_extra (reads : Reads o r) (k : Scalar) :
    Object.get? r.options.extra k = if isRead o k then none else Object.get? o k := by
  have respects (a : Scalar) (same : a.identity = k.identity) : (!isRead o a) = !isRead o k := by
    rw [isRead_congr same]
  rw [reads.extra, Object.get?_filter respects]
  cases isRead o k <;> rfl

theorem Reads.extra_distinct (reads : Reads o r) (distinct : o.Distinct) :
    Object.Distinct r.options.extra := by
  rw [reads.extra]
  exact distinct.sublist (List.filter_sublist.map _)

theorem isSpelling_iff {k : Scalar} :
    isSpelling k = true ↔ ∃ f ∈ allFields, ∃ spelling ∈ [f.camel, f.name], k = .text spelling := by
  simp only [isSpelling, List.any_eq_true, Bool.or_eq_true, beq_iff_eq]
  refine exists_congr fun f => and_congr_right fun _ => ?_
  simp

theorem isSpelling_of_isRead {k : Scalar} (h : isRead o k = true) : isSpelling k = true := by
  obtain ⟨spelling, given, key⟩ := List.any_eq_true.mp h
  obtain ⟨f, hf, given⟩ := List.mem_filterMap.mp given
  exact isSpelling_iff.mpr ⟨f, hf, spelling, (Field.mem_of_given? given).1, eq_of_beq key⟩

theorem isRead_of_given {f : Field} (hf : f ∈ allFields) {spelling : String}
    (given : f.given? o = some spelling) : isRead o (.text spelling) = true :=
  List.any_eq_true.mpr ⟨spelling, List.mem_filterMap.mpr ⟨f, hf, given⟩, BEq.rfl⟩

theorem given?_of_once (once : ¬ GivenTwice o) {f : Field} (hf : f ∈ allFields) {spelling : String}
    (own : spelling ∈ [f.camel, f.name]) (there : Object.has o spelling = true) :
    f.given? o = some spelling := by
  -- Either both spellings are one, or not both of them are keys.
  have other : f.camel = f.name ∨ ¬ (Object.has o f.camel = true ∧ Object.has o f.name = true) := by
    rcases List.mem_cons.mp hf with rfl | hf
    · exact .inr once
    · rcases List.mem_pair.mp hf with rfl | rfl
      · exact .inl rfl
      · exact .inl rfl
  unfold Field.given?
  rcases List.mem_pair.mp own with rfl | rfl
  · rw [if_pos there]
  · rcases other with same | other
    · rw [same, if_pos there]
    · rw [if_neg fun camel => other ⟨camel, there⟩, if_pos there]

theorem Reads.get?_extra_camel (reads : Reads o r) {f : Field} (hf : f ∈ allFields) :
    Object.get? r.options.extra (.text f.camel) = none := by
  rw [reads.get?_extra]
  by_cases there : Object.has o f.camel = true
  · have given : f.given? o = some f.camel := by rw [Field.given?, if_pos there]
    rw [isRead_of_given hf given, if_pos rfl]
  · rw [Option.not_isSome_iff_eq_none.mp there, ite_self]

/-- If no field is given twice, exactly the keys that are no spellings are passed on. -/
theorem Reads.get?_extra_of_once (reads : Reads o r) (once : ¬ GivenTwice o) (k : Scalar) :
    Object.get? r.options.extra k = if isSpelling k then none else Object.get? o k := by
  rw [reads.get?_extra]
  cases spelling : isSpelling k with
  | false =>
    have unread : isRead o k = false := Bool.eq_false_iff.mpr fun h =>
      Bool.eq_false_iff.mp spelling (isSpelling_of_isRead h)
    rw [unread]
  | true =>
    obtain ⟨f, hf, name, own, rfl⟩ := isSpelling_iff.mp spelling
    by_cases there : Object.has o name = true
    · rw [isRead_of_given hf (given?_of_once once hf own there)]
    · rw [Option.not_isSome_iff_eq_none.mp there, ite_self, ite_self]

/-- Of two spellings of one field, the one that counts less is passed on. -/
theorem Reads.get?_extra_of_twice (reads : Reads o r) (twice : GivenTwice o) :
    Object.get? r.options.extra (.text subOperationsField.name) =
      Object.get? o (.text subOperationsField.name) := by
  have unread : isRead o (.text subOperationsField.name) = false := by
    refine Bool.eq_false_iff.mpr fun h => ?_
    obtain ⟨spelling, given, key⟩ := List.any_eq_true.mp h
    obtain ⟨f, hf, given⟩ := List.mem_filterMap.mp given
    cases eq_of_beq key
    rcases List.mem_cons.mp hf with rfl | hf
    -- The camel case spelling is a key, so this field is not read from the other one.
    · have camel : subOperationsField.given? o = some subOperationsField.camel := if_pos twice.1
      exact absurd (Option.some.inj (camel.symm.trans given)) (by decide)
    · have own := (Field.mem_of_given? given).1
      rcases List.mem_pair.mp hf with rfl | rfl <;> exact absurd own (by decide)
  rw [reads.get?_extra, unread]
  rfl

theorem Reads.twice_of_hidden (reads : Reads o r) {f : Field} (hf : f ∈ allFields)
    (hidden : Object.get? r.options.extra (.text f.name) ≠ none) :
    f = subOperationsField ∧ GivenTwice o := by
  constructor
  · rcases List.mem_cons.mp hf with rfl | other
    · rfl
    · have same : f.name = f.camel := by
        rcases List.mem_pair.mp other with rfl | rfl <;> rfl
      exact absurd (same ▸ reads.get?_extra_camel hf) hidden
  · by_contra once
    have spelling : isSpelling (.text f.name) = true :=
      isSpelling_iff.mpr ⟨f, hf, f.name, by simp, rfl⟩
    exact hidden (by rw [reads.get?_extra_of_once once, spelling, if_pos rfl])

theorem Reads.truth_of_twice (reads : Reads o r) (twice : GivenTwice o) {b : Bool}
    (member : (subOperationsField, b) ∈ r.options.values) :
    truth (Object.field o "addSubOperations") = .ok b := by
  obtain ⟨t, found⟩ := Option.isSome_iff_exists.mp twice.1
  have given : subOperationsField.given? o = some "addSubOperations" := if_pos twice.1
  have value := reads.fields _ member
  rw [Field.read_of_given given found] at value
  rw [Object.field, found]
  exact Except.mapError_eq_ok.mp value

/-! ### Putting options into an object -/

variable {options : Options} {fields : List Field}

def shown (o : Options) (fields : List Field) : Object :=
  let shown := o.values.filter fun e => fields.any (·.name == e.1.name)
  shown.map fun e => (.text e.1.name, .bool e.2)

theorem dump_eq (o : Options) (fields : List Field) : o.dump Field.name fields =
    o.extra.foldl (fun d e => Object.insert d e.1 e.2) (o.shown fields) := rfl

theorem names_values (o : Options) :
    o.values.map (fun e => (Scalar.text e.1.name).identity) =
      allFields.map fun f => .text f.name := rfl

theorem shown_distinct (o : Options) (fields : List Field) : (o.shown fields).Distinct := by
  have names : (allFields.map fun f => Identity.text f.name).Nodup := by decide
  rw [← names_values o] at names
  unfold Object.Distinct shown
  rw [List.map_map]
  exact names.sublist (List.filter_sublist.map _)

theorem dump_distinct (o : Options) (fields : List Field) :
    Object.Distinct (o.dump Field.name fields) :=
  (o.shown_distinct fields).foldl_insert

theorem get?_shown {f : Field} {b : Bool} (hf : (f, b) ∈ options.values) :
    Object.get? (options.shown fields) (.text f.name) =
      if fields.any (·.name == f.name) then some (.bool b) else none := by
  cases chosen : fields.any (·.name == f.name) with
  | true =>
    have member : (.text f.name, .bool b) ∈ options.shown fields :=
      List.mem_map.mpr ⟨(f, b), List.mem_filter.mpr ⟨hf, chosen⟩, rfl⟩
    exact Object.get?_of_mem (options.shown_distinct fields) member
  | false =>
    refine Object.get?_eq_none.mpr fun member => ?_
    obtain ⟨e, he, same⟩ := List.mem_map.mp member
    obtain ⟨e', he', rfl⟩ := List.mem_map.mp he
    have name : e'.1.name = f.name := Identity.text.inj same
    have other := (List.mem_filter.mp he').2
    rw [name, chosen] at other
    cases other

def isName (k : Scalar) : Bool := allFields.any fun f => k == .text f.name

theorem isName_of_camel {f : Field} (hf : f ∈ allFields) (different : f.camel ≠ f.name) :
    isName (.text f.camel) = false := by
  rcases List.mem_cons.mp hf with rfl | hf
  · decide
  · rcases List.mem_pair.mp hf with rfl | rfl
    · exact absurd rfl different
    · exact absurd rfl different

theorem isSpelling_of_isName {k : Scalar} (h : isName k = true) : isSpelling k = true := by
  obtain ⟨f, hf, name⟩ := List.any_eq_true.mp h
  exact isSpelling_iff.mpr ⟨f, hf, f.name, by simp, eq_of_beq name⟩

theorem get?_shown_of_other {k : Scalar} (other : isName k = false) :
    Object.get? (options.shown fields) k = none := by
  refine Object.get?_eq_none.mpr fun member => ?_
  obtain ⟨e, he, same⟩ := List.mem_map.mp member
  obtain ⟨e', he', rfl⟩ := List.mem_map.mp he
  have key : k = .text e'.1.name := Scalar.identity_eq_text.mp same.symm
  have field : e'.1 ∈ allFields := List.mem_map_of_mem (f := Prod.fst) (List.mem_filter.mp he').1
  exact Bool.eq_false_iff.mp other (List.any_eq_true.mpr ⟨e'.1, field, beq_iff_eq.mpr key⟩)

theorem get?_dump (distinct : Object.Distinct options.extra) (k : Scalar) :
    Object.get? (options.dump Field.name fields) k =
      (Object.get? options.extra k).or (Object.get? (options.shown fields) k) := by
  rw [dump_eq, Object.get?_foldl_insert distinct]

theorem field_of_mem_values {e : Field × Bool} (h : e ∈ options.values) : e.1 ∈ allFields :=
  List.mem_map_of_mem (f := Prod.fst) h

theorem Reads.any_given (reads : Reads o r) {f : Field} (hf : f ∈ allFields) :
    r.given.any (·.name == f.name) = (f.given? o).isSome := by
  have names : (allFields.map Field.name).Nodup := by decide
  have only (g : Field) (hg : g ∈ allFields) (same : g.name = f.name) : g = f :=
    List.inj_on_of_nodup_map names hg hf same
  rw [reads.given, Bool.eq_iff_iff, List.any_eq_true]
  constructor
  · rintro ⟨g, hg, same⟩
    obtain ⟨member, given⟩ := List.mem_filter.mp hg
    rw [only g member (eq_of_beq same)] at given
    exact given
  · intro given
    exact ⟨f, List.mem_filter.mpr ⟨hf, given⟩, BEq.rfl⟩

theorem exists_mem_values (o : Options) {f : Field} (hf : f ∈ allFields) :
    ∃ b, (f, b) ∈ o.values := by
  have fields : allFields = o.values.map Prod.fst := rfl
  rw [fields] at hf
  obtain ⟨e, he, rfl⟩ := List.mem_map.mp hf
  exact ⟨e.2, he⟩

section Dump

variable (reads : Reads o r) (distinct : o.Distinct) {f : Field} {b : Bool}
  (member : (f, b) ∈ r.options.values)

include reads distinct member

theorem Reads.get?_dump_given : Object.get? (r.options.dump Field.name r.given) (.text f.name) =
    (Object.get? r.options.extra (.text f.name)).or
      (if (f.given? o).isSome then some (.bool b) else none) := by
  rw [get?_dump (reads.extra_distinct distinct), get?_shown member,
    reads.any_given (field_of_mem_values member)]

theorem Reads.get?_byName : Object.get? r.options.byName (.text f.name) =
    (Object.get? r.options.extra (.text f.name)).or (some (.bool b)) := by
  have all : allFields.any (·.name == f.name) = true :=
    List.any_eq_true.mpr ⟨f, field_of_mem_values member, BEq.rfl⟩
  rw [byName, get?_dump (reads.extra_distinct distinct), get?_shown member, all, if_pos rfl]

end Dump

end Options

theorem Preferences.reads_of_read {t : Tree} {u : Preferences} (h : Preferences.read t = .ok u) :
    ∃ r, Options.Reads (t.field "options").entriesOrNone r ∧ r.options = u.options := by
  cases t with
  | object o loop =>
    simp only [Preferences.read] at h
    split at h
    · rename_i options format first _
      cases h
      show ∃ r, Options.Reads (Object.field o "options").entriesOrNone r ∧ r.options = options
      cases found : Object.get? o (.text "options") with
      | none =>
        rw [found] at first
        cases first
        rw [Object.field, found]
        exact ⟨_, Options.reads_nil, rfl⟩
      | some t =>
        rw [found] at first
        obtain ⟨r, read, rfl⟩ := Except.map_eq_ok.mp first
        obtain ⟨block, loop, rfl, reads⟩ := Options.exists_of_read read
        rw [Object.field, found]
        exact ⟨r, reads, rfl⟩
    all_goals cases h
  | _ => cases h

end ApiOutline
