import ApiOutline.Definition.Catalog
import ApiOutline.Proofs.Definition.Naming
import ApiOutline.Proofs.Log
import ApiOutline.Proofs.Tree.Depth

/-! What the assignment of a schema does to a catalog. A schema that is equal to an earlier one,
that is none, or that gets no name leaves the catalog as it was; any other adds a definition. -/
namespace ApiOutline

open Machine (comparedLevels)

namespace Catalog

variable [Machine]

/-- Look-up finds the first definition with an equal schema, unless it ends too deep. -/
theorem find_cases (c : Catalog) (t : Tree) :
    c.find t = .ok (c.definitions.find? fun d => t.same d.schema) ∨
      c.find t = .error .tooDeep ∧ comparedLevels < t.height := by
  unfold find
  induction c.definitions with
  | nil => exact .inl rfl
  | cons d ds ih =>
    simp only [findIn]
    rcases Tree.compare_cases t d.schema with settled | ⟨ended, deep⟩
    · rw [settled]
      cases same : t.same d.schema with
      | true => exact .inl (by rw [List.find?_cons, same]; rfl)
      | false =>
        rw [List.find?_cons, same]
        exact ih
    · exact .inr ⟨by rw [ended]; rfl, deep⟩

def newcomer (c : Catalog) (t : Tree) (raw : String) : Definition :=
  ⟨c.definitions.length, t, Identifier.sanitize raw, Identifier.sanitize raw ++ inputSuffix⟩

def extended (c : Catalog) (t : Tree) (raw : String) : Catalog :=
  ⟨c.definitions ++ [c.newcomer t raw], (c.names.register raw).2⟩

/-- What the assignment of a schema can answer, and the catalog that it leaves behind. -/
inductive Outcome (c : Catalog) (t : Tree) (hints : Option Hints) :
    Except Failure (Option Definition) → Catalog → Prop where
  | absent : t.isNull = true → Outcome c t hints (.ok none) c
  | tooDeep : c.find t = .error .tooDeep → comparedLevels < t.height →
      Outcome c t hints (.error (.malformed .tooDeep)) c
  | reused {d : Definition} : t.isNull = false →
      (c.definitions.find? fun d => t.same d.schema) = some d → Outcome c t hints (.ok (some d)) c
  | nameless {e : Failure} : c.names.proposal hints = .error e →
      (c.definitions.find? fun d => t.same d.schema) = none → Outcome c t hints (.error e) c
  | created {raw : String} : t.isNull = false → c.names.proposal hints = .ok raw →
      (c.definitions.find? fun d => t.same d.schema) = none →
      Outcome c t hints (.ok (some (c.newcomer t raw))) (c.extended t raw)

end Catalog

namespace Session

open Catalog

variable {α β : Type}

theorem read_bind (f : Catalog → Session α) (c : Catalog) : (read >>= f) c = f c c := rfl

theorem bind_of_ok {x : Session α} {c c' : Catalog} {notes : List Note} {a : α}
    (h : x c = (⟨notes, .ok a⟩, c')) (f : α → Session β) :
    (x >>= f) c = (⟨notes ++ (f a c').1.notes, (f a c').1.result⟩, (f a c').2) := by
  simp only [Bind.bind, bind, h]

theorem bind_of_error {x : Session α} {c c' : Catalog} {notes : List Note} {e : Failure}
    (h : x c = (⟨notes, .error e⟩, c')) (f : α → Session β) :
    (x >>= f) c = (⟨notes, .error e⟩, c') := by
  simp only [Bind.bind, bind, h]

theorem name_of_error {c : Catalog} {hints : Option Hints} {e : Failure}
    (h : c.names.proposal hints = .error e) : name hints c = (⟨[], .error e⟩, c) := by
  rw [name, read_bind]
  exact bind_of_error (by rw [h]; rfl) _

theorem name_of_ok {c : Catalog} {hints : Option Hints} {raw : String}
    (h : c.names.proposal hints = .ok raw) : name hints c =
      (⟨[], .ok (Identifier.sanitize raw)⟩, { c with names := (c.names.register raw).2 }) := by
  rw [name, read_bind, h]
  rfl

theorem create_of_error {c : Catalog} {t : Tree} {hints : Option Hints} {e : Failure}
    (h : c.names.proposal hints = .error e) : create t hints c = (⟨[], .error e⟩, c) := by
  rw [create, bind_of_error (name_of_error h)]

theorem create_of_ok {c : Catalog} {t : Tree} {hints : Option Hints} {raw : String}
    (h : c.names.proposal hints = .ok raw) : ∃ notes,
      create t hints c = (⟨notes, .ok (c.newcomer t raw)⟩, c.extended t raw) := by
  rw [create, bind_of_ok (name_of_ok h)]
  exact ⟨_, rfl⟩

theorem assign_outcome [Machine] (c : Catalog) (t : Tree) (hints : Option Hints) :
    Outcome c t hints (assign t hints c).1.result (assign t hints c).2 := by
  cases null : t.isNull with
  | true =>
    rw [assign, if_pos null]
    exact .absent null
  | false =>
    rw [assign, if_neg (Bool.eq_false_iff.mp null), read_bind]
    rcases find_cases c t with found | ⟨ended, deep⟩
    · rw [found]
      cases first : c.definitions.find? fun d => t.same d.schema with
      | some d => exact .reused null first
      | none =>
        simp only
        cases proposed : c.names.proposal hints with
        | error e =>
          rw [bind_of_error (create_of_error proposed)]
          exact .nameless proposed first
        | ok raw =>
          obtain ⟨notes, created⟩ := create_of_ok (t := t) proposed
          rw [bind_of_ok created]
          exact .created null proposed first
    · rw [ended]
      exact .tooDeep ended deep

section Leaves

variable {P : Note → Prop}

def Leaves (P : Note → Prop) (x : Session α) : Prop := ∀ c, (x c).1.Leaves P

theorem Leaves.bind {x : Session α} {f : α → Session β} (first : x.Leaves P)
    (rest : ∀ a, (f a).Leaves P) : (x >>= f).Leaves P := by
  intro c n hn
  rcases whole : x c with ⟨⟨notes, result⟩, c'⟩
  cases result with
  | error e =>
    rw [bind_of_error whole] at hn
    exact first c n (by rw [whole]; exact hn)
  | ok a =>
    rw [bind_of_ok whole] at hn
    rcases List.mem_append.mp hn with before | after
    · exact first c n (by rw [whole]; exact before)
    · exact rest a c' n after

theorem leaves_ofLogged {x : Logged α} (h : x.Leaves P) : (ofLogged x).Leaves P := fun _ => h

theorem leaves_read : read.Leaves P := fun _ _ hn => by cases hn

theorem leaves_write (c : Catalog) : (write c).Leaves P := fun _ _ hn => by cases hn

theorem leaves_name (hints : Option Hints) : (name hints).Leaves P := by
  refine leaves_read.bind fun c => ?_
  refine Leaves.bind (leaves_ofLogged (Logged.leaves_ofExcept _)) fun raw => ?_
  refine (leaves_write _).bind fun _ => ?_
  exact fun _ _ hn => by cases hn

theorem leaves_assign [Machine] (t : Tree) (hints : Option Hints) :
    (assign t hints).Leaves (·.level = .debug) := by
  unfold assign
  split
  · exact fun _ _ hn => by cases hn
  · refine leaves_read.bind fun c => ?_
    split
    · exact fun _ _ hn => by cases hn
    · refine Leaves.bind (leaves_ofLogged (Logged.leaves_note rfl)) fun _ => ?_
      exact fun _ _ hn => by cases hn
    · refine Leaves.bind ?_ fun d => ?_
      · refine (leaves_name hints).bind fun n => leaves_read.bind fun c => ?_
        refine (leaves_write _).bind fun _ => ?_
        refine Leaves.bind (leaves_ofLogged (Logged.leaves_note rfl)) fun _ => ?_
        exact fun _ _ hn => by cases hn
      · exact fun _ _ hn => by cases hn

end Leaves

end Session

variable [Machine]

theorem Catalog.leaves_assign (c : Catalog) (t : Tree) (hints : Option Hints) :
    (c.assign t hints).Leaves (·.level = .debug) := by
  intro n hn
  rw [assign, Logged.notes_map] at hn
  exact Session.leaves_assign t hints c n hn

theorem Catalog.outcome_of_assign {c c' : Catalog} {t : Tree} {hints : Option Hints}
    {answer : Option Definition} (h : (c.assign t hints).result = .ok (answer, c')) :
    Outcome c t hints (.ok answer) c' := by
  have outcome := Session.assign_outcome c t hints
  simp only [assign, Logged.result_map] at h
  cases result : (Session.assign t hints c).1.result with
  | error e => simp [result, Except.map] at h
  | ok found =>
    simp only [result, Except.map, Except.ok.injEq, Prod.mk.injEq] at h
    obtain ⟨rfl, rfl⟩ := h
    exact result ▸ outcome

end ApiOutline
