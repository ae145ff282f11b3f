import ApiOutline.Proofs.Operation.Warnings
import ApiOutline.Proofs.Outline.Payloads
import ApiOutline.Proofs.Outline.Visits
import ApiOutline.Proofs.Security

/-! Where the operations of a document go. Each one that is declared is stored, left out with a
warning, or later replaced with a warning, so the warnings account for all that is missing. -/
namespace ApiOutline

namespace Declared

variable [Machine]

def isLeftOut (v : Declared) : Bool := v.site.responseSchema.isNone

/-- Whether an operation is what is built for its declaration, before its sub-operations are
found. -/
def Builds (options : Options) (v : Declared) (o : Operation) : Prop :=
  ∃ c c', (Operation.ofSite Catalog.assign options v.site v.method v.endpoint c).result =
    .ok (some { o with subOperations := none }, c')

theorem isLeftOut_of_claims {v : Declared} {id : String} (claims : v.Claims id) :
    v.isLeftOut = false := by
  rw [isLeftOut, Option.isNone_eq_false_iff]
  exact claims.1

end Declared

namespace Outline

open Catalog (Outcome)

variable {options : Options} {vs : List Declared} {v w : Declared} {p p' : Progress}
  {notes : List Note}

section

variable [Machine]

inductive Visited (options : Options) (v : Declared) (p : Progress) :
    List Note → Progress → Prop where
  | leftOut {notes : List Note} {c' : Catalog} : v.isLeftOut = true → Operation.Counts notes 1 0 →
      Visited options v p notes ⟨c', p.operations⟩
  | stored {notes : List Note} {c' : Catalog} {o : Operation} : v.Claims o.id →
      v.Builds options o →
      Operation.Counts notes 0 (if (Entries.get? o.id p.operations).isSome then 1 else 0) →
      Visited options v p notes ⟨c', Entries.insert o.id o p.operations⟩

omit [Machine] in
theorem counts_of_add {s : Site} {o : Operation} (run : p.add s o = ⟨notes, .ok p'⟩) :
    Operation.Counts notes 0 (if (Entries.get? o.id p.operations).isSome then 1 else 0) := by
  unfold Progress.add at run
  split at run
  · rename_i taken
    obtain ⟨later, final, rfl⟩ := Logged.note_bind_eq_mk.mp run
    obtain ⟨rfl, _⟩ := Logged.pure_eq_mk.mp final
    obtain ⟨not_left, replaced⟩ := Note.isReplaced_of_shown o.id (Operation.quoted s)
    rw [if_pos taken]
    constructor
    · exact List.countP_cons_of_neg (Bool.eq_false_iff.mp not_left)
    · exact List.countP_cons_of_pos replaced
  · rename_i free
    obtain ⟨rfl, _⟩ := Logged.pure_eq_mk.mp run
    rw [if_neg free]
    exact ⟨rfl, rfl⟩

theorem visited_of_visit (run : v.visit options p = ⟨notes, .ok p'⟩) :
    Visited options v p notes p' := by
  obtain ⟨before, ⟨built, c'⟩, after, found, rest, rfl⟩ := Logged.bind_eq_mk.mp run
  have counts := Operation.counts_of_ofSite found
  obtain ⟨_, request, _, middle, _, response, _, answered, _, ending⟩ :=
    Operation.ofSite_eq_mk found
  obtain ⟨_, _, outcome⟩ := Operation.outcome_of_assignResponse (congrArg Logged.result answered)
  have same_none : response.isNone = v.isLeftOut :=
    outcome.isNone_eq fun t h => (Site.isSchema_of_responseSchema h).given
  rcases ending with ⟨rfl, rfl⟩ | ⟨o, rfl, reads, rfl, _, rfl⟩
  · obtain ⟨rfl, same⟩ := Logged.pure_eq_mk.mp rest
    cases same
    rw [List.append_nil]
    exact .leftOut same_none.symm counts
  · have added := counts_of_add rest
    have same := eq_of_add (congrArg Logged.result rest)
    subst same
    have whole : { o with subOperations := none } = o := by rw [← reads.subOperations]
    refine .stored ⟨?_, reads.id⟩ ⟨p.catalog, c', ?_⟩ ⟨?_, ?_⟩
    · exact Option.isNone_eq_false_iff.mp same_none.symm
    · rw [whole, found]
    · rw [List.countP_append, counts.leftOut, added.leftOut]
      rfl
    · rw [List.countP_append, counts.replaced, added.replaced, Nat.zero_add]

/-! ### All visits -/

/-- An operation under its id, as the last one that is declared with it and not left out. -/
structure Bound (options : Options) (v : Declared) (future : List Declared)
    (e : String × Operation) : Prop where
  key : e.1 = e.2.id
  claims : v.Claims e.1
  builds : v.Builds options e.2
  last : ∀ w ∈ future, ¬ w.Claims e.1

theorem Bound.claims_iff {future : List Declared} {e : String × Operation}
    (bound : Bound options v future e) (id : String) : v.Claims id ↔ id = e.1 := by
  constructor
  · intro claims
    have same := claims.2.symm.trans bound.claims.2
    exact Except.ok.inj same
  · rintro rfl
    exact bound.claims

theorem Bound.extend {future : List Declared} {e : String × Operation}
    (bound : Bound options v future e) (other : ¬ w.Claims e.1) :
    Bound options v (future ++ [w]) e where
  key := bound.key
  claims := bound.claims
  builds := bound.builds
  last u hu := (List.mem_append.mp hu).elim (bound.last u) fun hu =>
    List.mem_singleton.mp hu ▸ other

structure Accounted (options : Options) (vs : List Declared) (notes : List Note) (p : Progress) :
    Prop where
  leftOut : notes.countP Note.isLeftOut = vs.countP Declared.isLeftOut
  stored : p.operations.length + notes.countP Note.isReplaced = vs.countP (!·.isLeftOut)
  unique : (Entries.keys p.operations).Nodup
  bound : ∀ e ∈ p.operations, ∃ past v future, vs = past ++ v :: future ∧ Bound options v future e

theorem accounted_nothing : Accounted options [] [] ⟨Catalog.empty, []⟩ where
  leftOut := rfl
  stored := rfl
  unique := List.nodup_nil
  bound := by simp

theorem Accounted.visit {after : List Note} (accounted : Accounted options vs notes p)
    (run : v.visit options p = ⟨after, .ok p'⟩) :
    Accounted options (vs ++ [v]) (notes ++ after) p' := by
  have earlier := accounted.leftOut
  have earlier' := accounted.stored
  cases visited_of_visit run with
  | leftOut left counts =>
    refine ⟨?_, ?_, accounted.unique, fun e he => ?_⟩
    · simp only [List.countP_append, counts.leftOut, earlier, List.countP_singleton, left, if_true]
    · simpa [List.countP_append, counts.replaced, left] using earlier'
    · obtain ⟨past, u, future, rfl, bound⟩ := accounted.bound e he
      refine ⟨past, u, future ++ [v], by simp, bound.extend fun claims => ?_⟩
      have kept := Declared.isLeftOut_of_claims claims
      rw [left] at kept
      cases kept
  | @stored _ o claims builds counts =>
    have kept := Declared.isLeftOut_of_claims claims
    have new : Bound options v [] (o.id, o) := ⟨rfl, claims, builds, by simp⟩
    refine ⟨?_, ?_, Entries.nodup_keys_insert accounted.unique, fun e he => ?_⟩
    · simp [List.countP_append, counts.leftOut, earlier, kept]
    · have longer : (Entries.insert o.id o p.operations).length = _ := Entries.length_insert
      have one : [v].countP (!·.isLeftOut) = 1 := by simp [kept]
      rw [List.countP_append, List.countP_append, counts.replaced, one, longer]
      split <;> omega
    · rcases Entries.mem_insert accounted.unique he with rfl | ⟨old, other⟩
      · exact ⟨vs, v, [], rfl, new⟩
      · obtain ⟨past, u, future, rfl, bound⟩ := accounted.bound e old
        refine ⟨past, u, future ++ [v], by simp, bound.extend fun claims => other ?_⟩
        exact (new.claims_iff e.1).mp claims

theorem accounted_of_visit {document : Object}
    (run : visit Catalog.assign document options = ⟨notes, .ok p⟩) :
    Accounted options (Declared.ofDocument document) notes p := by
  rw [visit_eq (congrArg Logged.result run)] at run
  exact Logged.foldlM_trace accounted_nothing
    (fun _ _ _ _ _ _ _ accounted step => accounted.visit step) run

theorem bound_of_mem {document : Object} {o : Outline}
    (run : ofDocument document options = ⟨notes, .ok o⟩) :
    ∀ e ∈ o.operations, ∃ past v future, Declared.ofDocument document = past ++ v :: future ∧
      Bound options v future e := by
  obtain ⟨p, visited, _, _, members⟩ := mem_operations (congrArg Logged.result run)
  have accounted := accounted_of_visit (Logged.eq_mk_of_result visited)
  intro e he
  obtain ⟨built, member, key, value⟩ := members e he
  obtain ⟨past, v, future, split, bound⟩ := accounted.bound built member
  refine ⟨past, v, future, split, ?_, ?_, ?_, ?_⟩
  · rw [key, value, bound.key]
  · rw [key]
    exact bound.claims
  · rw [value]
    exact bound.builds
  · rw [key]
    exact bound.last

/-! ### All notes -/

omit [Machine] in
theorem isOther_skipped (shown description : String) :
    (Security.skipped shown description).IsOther :=
  Note.isOther_of_last (c := 't') (by decide) (by decide) (by decide) _ _

theorem others_of_normalize {strict : Bool} {declared : Object} {after : List Note}
    {schemes : List (String × Security.Scheme)}
    (run : Security.normalize strict declared = ⟨after, .ok schemes⟩) (last : String) :
    ∀ n ∈ after ++ [⟨.info, last⟩], n.IsOther := by
  intro n hn
  rcases List.mem_append.mp hn with skipped | final
  · obtain ⟨shown, description, rfl⟩ :=
      (Security.normalization_of_normalize run).note n skipped
    exact isOther_skipped shown description
  · rw [List.mem_singleton.mp final]
    exact Note.isOther_of_level (by simp)

theorem counted_of_ofDocument {document : Object} {o : Outline}
    (run : ofDocument document options = ⟨notes, .ok o⟩) :
    notes.countP Note.isLeftOut = (Declared.ofDocument document).countP Declared.isLeftOut ∧
    o.operations.length + notes.countP Note.isReplaced =
      (Declared.ofDocument document).countP (!·.isLeftOut) := by
  obtain ⟨before, p, _, after, last, visited, _, normalized, rfl, _⟩ := ofDocument_eq_mk run
  obtain ⟨found, visited', _, keys, _⟩ := mem_operations (congrArg Logged.result run)
  cases visited'.symm.trans (congrArg Logged.result visited)
  have accounted := accounted_of_visit visited
  obtain ⟨left, replaced⟩ := Note.countP_of_isOther (others_of_normalize normalized last)
  generalize after ++ [⟨.info, last⟩] = rest at left replaced
  have same_length : o.operations.length = p.operations.length := by
    simpa [Entries.keys] using congrArg List.length keys
  rw [List.countP_append, List.countP_append, left, replaced, same_length]
  exact ⟨accounted.leftOut, accounted.stored⟩

/-- Every operation that a document declares is stored under its id, or left out with a warning, or
replaced with a warning. Under every id stands the last operation that is declared with it and not
left out. -/
theorem operations_accounted (document : Object) (options : Options) (notes : List Note)
    (o : Outline) (run : ofDocument document options = ⟨notes, .ok o⟩) :
    (Declared.ofDocument document).length =
      o.operations.length + notes.countP Note.isLeftOut + notes.countP Note.isReplaced ∧
    notes.countP Note.isLeftOut = (Declared.ofDocument document).countP Declared.isLeftOut ∧
    (Entries.keys o.operations).Nodup ∧
    (∀ id, id ∈ Entries.keys o.operations ↔ ∃ v ∈ Declared.ofDocument document, v.Claims id) ∧
    ∀ e ∈ o.operations, ∃ past v future, Declared.ofDocument document = past ++ v :: future ∧
      Bound options v future e := by
  have succeeds := congrArg Logged.result run
  obtain ⟨found, visited, _, keys, _⟩ := mem_operations succeeds
  obtain ⟨left, stored⟩ := counted_of_ofDocument run
  refine ⟨?_, left, nodup_keys_operations succeeds, ?_, bound_of_mem run⟩
  · have parts : (Declared.ofDocument document).length = _ :=
      List.length_eq_countP_add_countP Declared.isLeftOut
    rw [parts, ← left]
    simp only [Bool.not_eq_true, Bool.decide_eq_false] at stored ⊢
    omega
  · rw [keys]
    exact (follows_of_visit visited).claimed

end

theorem shop_operations : ∃ notes o, ofDocument shop Options.usual = ⟨notes, .ok o⟩ ∧
    (Declared.ofDocument shop).length = 4 ∧ Entries.keys o.operations = ["pets"] ∧
    notes.countP Note.isLeftOut = 2 ∧ notes.countP Note.isReplaced = 1 := by
  obtain ⟨o, succeeds, found⟩ := Except.exists_of_any
    (x := (ofDocument shop Options.usual).result)
    (p := fun o => Entries.keys o.operations == ["pets"]) (by decide +kernel)
  have keys : Entries.keys o.operations = ["pets"] := eq_of_beq found
  have one : o.operations.length = 1 := by
    simpa [Entries.keys] using congrArg List.length keys
  have run := Logged.eq_mk_of_result succeeds
  obtain ⟨counted, left, _⟩ := operations_accounted shop Options.usual _ o run
  have four : (Declared.ofDocument shop).length = 4 := by decide +kernel
  have two : (Declared.ofDocument shop).countP Declared.isLeftOut = 2 := by decide +kernel
  refine ⟨_, o, run, four, keys, left.trans two, ?_⟩
  omega

end Outline

end ApiOutline
