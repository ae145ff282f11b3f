import ApiOutline.Proofs.Log

/-! Failures that tell of a document, and computations that fail in no other way. What reads a
document is of this kind, since each of its parts is. -/
namespace ApiOutline

/-- A failure that tells of a reference, of a record that a part of the document does not fit, or of
a part that no step is prepared for. -/
inductive Failure.IsOfDocument : Failure → Prop where
  | reference (fault : ReferenceFault) : IsOfDocument (.reference fault)
  | invalid (report : Report) : IsOfDocument (.invalid report)
  | malformed (what : Malformed) : IsOfDocument (.malformed what)

namespace Except

variable {α β : Type} {r : Except Failure α} {f : α → Except Failure β}

def BlamesDocument (r : Except Failure α) : Prop := ∀ e, r = .error e → e.IsOfDocument

theorem blames_ok (a : α) : BlamesDocument (.ok a) := nofun

theorem blames_error {e : Failure} (h : e.IsOfDocument) :
    BlamesDocument (.error e : Except Failure α) := by
  rintro _ ⟨⟩
  exact h

theorem blames_lift (r : Except Malformed α) : BlamesDocument (liftM r : Except Failure α) := by
  cases r with
  | ok a => exact blames_ok a
  | error what => exact blames_error (.malformed what)

theorem BlamesDocument.bind (first : BlamesDocument r)
    (rest : ∀ a, r = .ok a → BlamesDocument (f a)) : BlamesDocument (r >>= f) := by
  cases r with
  | ok a => exact rest a rfl
  | error e => exact blames_error (first e rfl)

theorem BlamesDocument.map (first : BlamesDocument r) (g : α → β) : BlamesDocument (r.map g) := by
  cases r with
  | ok a => exact blames_ok (g a)
  | error e => exact blames_error (first e rfl)

theorem BlamesDocument.mapM {l : List α} (each : ∀ a ∈ l, BlamesDocument (f a)) :
    BlamesDocument (l.mapM f) := by
  induction l with
  | nil => exact blames_ok []
  | cons a l ih =>
    have later := ih fun b hb => each b (List.mem_cons_of_mem a hb)
    rw [List.mapM_cons]
    refine (each a List.mem_cons_self).bind fun first _ => ?_
    exact later.bind fun rest _ => blames_ok (first :: rest)

theorem BlamesDocument.foldlM {step : β → α → Except Failure β} {l : List α} {b : β}
    (each : ∀ b a, BlamesDocument (step b a)) : BlamesDocument (l.foldlM step b) := by
  induction l generalizing b with
  | nil => exact blames_ok b
  | cons a l ih =>
    rw [List.foldlM_cons]
    exact (each b a).bind fun _ _ => ih

theorem BlamesDocument.filterM {test : α → Except Failure Bool} {l : List α}
    (each : ∀ a, BlamesDocument (test a)) : BlamesDocument (l.filterM test) := by
  have loop (kept : List α) : BlamesDocument (l.filterAuxM test kept) := by
    induction l generalizing kept with
    | nil => exact blames_ok kept
    | cons a l ih => exact (each a).bind fun _ _ => ih _
  exact (loop []).bind fun kept _ => blames_ok kept.reverse

end Except

namespace Logged

variable {α β : Type} {N : Note → Prop} {x : Logged α}

/-- What is true of the notes of a computation that can fail only because of its document. -/
structure Within (N : Note → Prop) (x : Logged α) : Prop where
  notes : x.Leaves N
  failure : Except.BlamesDocument x.result

theorem within_lift {r : Except Failure α} (h : Except.BlamesDocument r) :
    Within N (liftM r : Logged α) where
  notes := leaves_ofExcept r
  failure := h

theorem within_lift_malformed (r : Except Malformed α) : Within N (liftM r : Logged α) where
  notes := leaves_lift r
  failure := Except.blames_lift r

theorem within_pure (a : α) : Within N (pure a : Logged α) := within_lift (Except.blames_ok a)

theorem within_note {level : Level} {message : String} (h : N ⟨level, message⟩) :
    Within N (note level message) where
  notes := leaves_note h
  failure := Except.blames_ok ()

theorem Within.bind {f : α → Logged β} (first : x.Within N)
    (rest : ∀ a, x.result = .ok a → (f a).Within N) : (x >>= f).Within N := by
  obtain ⟨notes, result⟩ := x
  cases result with
  | error e => exact ⟨first.notes, Except.blames_error (first.failure e rfl)⟩
  | ok a =>
    have later := rest a rfl
    refine ⟨fun n hn => ?_, later.failure⟩
    exact (List.mem_append.mp hn).elim (first.notes n) (later.notes n)

theorem Within.foldlM {step : β → α → Logged β} {l : List α} {b : β}
    (each : ∀ b a, (step b a).Within N) : (l.foldlM step b).Within N := by
  induction l generalizing b with
  | nil => exact within_pure b
  | cons a l ih =>
    rw [List.foldlM_cons]
    exact (each b a).bind fun _ _ => ih

end Logged

end ApiOutline
