import Mathlib.Data.List.Induction
import Mathlib.Data.List.Pairwise
import ApiOutline.Proofs.Definition.Outcome

/-! Definitions that are shared. However often definitions are asked for, equal schemas get one and
the same definition, other schemas get different ones, and names and definitions belong together. -/
namespace ApiOutline.Catalog

/-! ### One call -/

variable {c c' : Catalog} {t : Tree} {hints : Option Hints}
  {answer : Except Failure (Option Definition)}

variable [Machine]

theorem Outcome.definitions_extend (outcome : Outcome c t hints answer c') :
    c.definitions <+: c'.definitions := by
  cases outcome with
  | created => exact List.prefix_append _ _
  | _ => exact List.prefix_rfl

structure Named (c : Catalog) : Prop where
  coupled : c.names.Coupled
  names : c.definitions.map (·.objectName) = c.names.used
  inputs : ∀ d ∈ c.definitions, d.inputName = d.objectName ++ inputSuffix
  indices : c.definitions.map (·.index) = List.range c.definitions.length

omit [Machine] in
theorem empty_named : empty.Named := ⟨Registry.empty_coupled, rfl, by simp [empty], rfl⟩

theorem Named.outcome (named : c.Named) (outcome : Outcome c t hints answer c') : c'.Named := by
  cases outcome with
  | @created raw _ proposed _ =>
    have free := Registry.isUsed_of_proposal proposed
    refine ⟨named.coupled.register free, ?_, ?_, ?_⟩
    · simp only [extended, newcomer, named.coupled.register_eq free, List.map_append, named.names,
        List.map_cons, List.map_nil]
    · intro d hd
      rcases List.mem_append.mp hd with hd | hd
      · exact named.inputs d hd
      · cases List.mem_singleton.mp hd
        rfl
    · simp only [extended, newcomer, List.map_append, named.indices, List.map_cons, List.map_nil,
        List.length_append, List.length_cons, List.length_nil, List.range_succ]
  | _ => exact named

omit [Machine] in
theorem Named.index_eq (named : c.Named) {d : Definition} {i : Nat}
    (found : c.definitions[i]? = some d) : d.index = i := by
  have inside := (List.getElem?_eq_some_iff.mp found).1
  have place : (c.definitions.map (·.index))[i]? = some i := by
    rw [named.indices, List.getElem?_range inside]
  rw [List.getElem?_map, found] at place
  exact Option.some.inj place

omit [Machine] in
theorem Named.getElem?_index (named : c.Named) {d : Definition} (hd : d ∈ c.definitions) :
    c.definitions[d.index]? = some d := by
  obtain ⟨i, found⟩ := List.mem_iff_getElem?.mp hd
  rw [named.index_eq found, found]

omit [Machine] in
theorem Named.inputNames (named : c.Named) :
    c.definitions.map (·.inputName) = c.names.used.map (· ++ inputSuffix) := by
  rw [← named.names, List.map_map]
  exact List.map_congr_left fun d hd => named.inputs d hd

omit [Machine] in
theorem Named.newcomer_not_mem (named : c.Named) (t : Tree) (raw : String) :
    c.newcomer t raw ∉ c.definitions := by
  intro member
  have place := named.getElem?_index member
  simp [newcomer] at place

/-- Schemas are well formed and no two of them are equal, whichever is compared with the other. -/
structure Unlike (c : Catalog) : Prop where
  formed : ∀ d ∈ c.definitions, d.schema.wellFormed = true
  unlike : c.definitions.Pairwise fun d e =>
    d.schema.same e.schema = false ∧ e.schema.same d.schema = false

omit [Machine] in
theorem empty_unlike : empty.Unlike := ⟨by simp [empty], List.Pairwise.nil⟩

theorem Unlike.outcome (unlike : c.Unlike) (formed : t.wellFormed = true)
    (outcome : Outcome c t hints answer c') : c'.Unlike := by
  cases outcome with
  | created _ _ none_equal =>
    have different : ∀ d ∈ c.definitions, t.same d.schema = false := by
      simpa using List.find?_eq_none.mp none_equal
    refine ⟨?_, List.pairwise_append.mpr ⟨unlike.unlike, List.pairwise_singleton _ _, ?_⟩⟩
    · intro d hd
      rcases List.mem_append.mp hd with hd | hd
      · exact unlike.formed d hd
      · cases List.mem_singleton.mp hd
        exact formed
    · intro d hd e he
      cases List.mem_singleton.mp he
      refine ⟨Bool.eq_false_iff.mpr fun equal => ?_, different d hd⟩
      exact Bool.eq_false_iff.mp (different d hd) (Tree.same_symm (unlike.formed d hd) formed equal)
  | _ => exact unlike

omit [Machine] in
/-- A schema is equal to that of at most one definition. -/
theorem Unlike.eq_of_same (unlike : c.Unlike) (formed : t.wellFormed = true) {d e : Definition}
    (hd : d ∈ c.definitions) (he : e ∈ c.definitions) (equal_d : t.same d.schema = true)
    (equal_e : t.same e.schema = true) : d = e := by
  have symmetric : Std.Symm fun d e : Definition =>
      d.schema.same e.schema = false ∧ e.schema.same d.schema = false := ⟨fun _ _ h => h.symm⟩
  by_contra different
  have apart := (unlike.unlike.forall hd he different).1
  have equal := Tree.same_trans (Tree.same_symm formed (unlike.formed d hd) equal_d) equal_e
  exact Bool.eq_false_iff.mp apart equal

/-- A call for the definition of a schema. -/
structure Call where
  schema : Tree
  hints : Option Hints
  formed : schema.wellFormed = true

def Call.run (call : Call) : Session (Option Definition) := Session.assign call.schema call.hints

/-- The catalog that calls leave behind, whether they succeed or fail. -/
def after (calls : List Call) : Catalog :=
  calls.foldl (fun c call => (call.run c).2) empty

theorem after_append (calls more : List Call) :
    after (calls ++ more) = more.foldl (fun c call => (call.run c).2) (after calls) :=
  List.foldl_append

theorem Call.outcome (call : Call) (c : Catalog) :
    Outcome c call.schema call.hints (call.run c).1.result (call.run c).2 :=
  Session.assign_outcome c call.schema call.hints

theorem after_induction {P : Catalog → Prop} (start : P empty)
    (step : ∀ c (call : Call), P c → P (call.run c).2) (calls : List Call) : P (after calls) := by
  induction calls using List.reverseRecOn with
  | nil => exact start
  | append_singleton calls call ih =>
    rw [after_append]
    exact step _ call ih

theorem after_named (calls : List Call) : (after calls).Named :=
  after_induction empty_named (fun c call named => named.outcome (call.outcome c)) calls

theorem after_unlike (calls : List Call) : (after calls).Unlike :=
  after_induction empty_unlike (fun c call unlike => unlike.outcome call.formed (call.outcome c))
    calls

theorem after_extends (calls more : List Call) :
    (after calls).definitions <+: (after (calls ++ more)).definitions := by
  induction more using List.reverseRecOn with
  | nil => simp
  | append_singleton more call ih =>
    rw [← List.append_assoc, after_append]
    exact ih.trans (call.outcome _).definitions_extend

/-- Names, definitions and schemas of a catalog belong together. -/
structure Consistent (c : Catalog) : Prop where
  /-- No two definitions have equal schemas, whichever of them is compared with the other. -/
  unlike : c.definitions.Pairwise fun d e =>
    d.schema.same e.schema = false ∧ e.schema.same d.schema = false
  /-- A schema is equal to that of at most one definition. -/
  single : ∀ t : Tree, t.wellFormed = true → ∀ d ∈ c.definitions, ∀ e ∈ c.definitions,
    (t.same d.schema = true ∨ d.schema.same t = true) →
      (t.same e.schema = true ∨ e.schema.same t = true) → d = e
  distinct : (c.definitions.map (·.objectName)).Nodup
  used : ∀ n, n ∈ c.names.used ↔ n ∈ c.definitions.map (·.objectName)
  keys : ∀ n, n ∈ Entries.keys c.names.origins ↔ n ∈ c.definitions.map (·.objectName)
  origin : ∀ n raw, Entries.get? n c.names.origins = some raw → Identifier.sanitize raw = n
  input : ∀ d ∈ c.definitions, d.inputName = d.objectName ++ "Input"

omit [Machine] in
theorem consistent_of (named : c.Named) (unlike : c.Unlike) : c.Consistent := by
  have either {t : Tree} (formed : t.wellFormed = true) {d : Definition} (hd : d ∈ c.definitions)
      (h : t.same d.schema = true ∨ d.schema.same t = true) : t.same d.schema = true :=
    h.elim id (Tree.same_symm (unlike.formed d hd) formed)
  refine ⟨unlike.unlike, ?_, ?_, ?_, ?_, ?_, named.inputs⟩
  · intro t formed d hd e he equal_d equal_e
    exact unlike.eq_of_same formed hd he (either formed hd equal_d) (either formed he equal_e)
  · rw [named.names]
    exact named.coupled.distinct
  · intro n
    rw [named.names]
  · intro n
    rw [named.names, named.coupled.keys]
  · intro n raw h
    exact named.coupled.origin (n, raw) (Entries.mem_of_get? h)

/-- Whatever is asked for, a catalog stays consistent. A call adds to the definitions at the end,
and one that fails, that has no schema, or that gets a definition from before changes nothing. -/
theorem calls_keep_consistent (calls : List Call) :
    (after calls).Consistent ∧ ∀ call : Call,
      (after calls).definitions <+: (after (calls ++ [call])).definitions ∧
      ((∃ e, (call.run (after calls)).1.result = .error e) ∨
        (call.run (after calls)).1.result = .ok none ∨
        (∃ d ∈ (after calls).definitions, (call.run (after calls)).1.result = .ok (some d)) →
          after (calls ++ [call]) = after calls) := by
  refine ⟨consistent_of (after_named calls) (after_unlike calls), fun call => ?_⟩
  refine ⟨after_extends calls [call], fun quiet => ?_⟩
  rw [after_append]
  show (call.run (after calls)).2 = after calls
  have outcome := call.outcome (after calls)
  generalize (call.run (after calls)).1.result = answer at outcome quiet
  generalize (call.run (after calls)).2 = c' at outcome
  cases outcome with
  | @created raw =>
    rcases quiet with ⟨e, failed⟩ | nothing | ⟨d, hd, old⟩
    · cases failed
    · cases nothing
    · cases old
      exact absurd hd ((after_named calls).newcomer_not_mem call.schema raw)
  | _ => rfl

end ApiOutline.Catalog
