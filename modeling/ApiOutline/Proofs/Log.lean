import Mathlib.Data.List.Forall2
import Mathlib.Data.List.Induction
import ApiOutline.Log

/-! Results of computations that leave notes. The notes have no part in a result, so a computation
succeeds exactly if all its parts do. -/
namespace ApiOutline

namespace Except

variable {ε α β : Type}

theorem bind_eq_ok {x : Except ε α} {f : α → Except ε β} {b : β} :
    (x >>= f) = .ok b ↔ ∃ a, x = .ok a ∧ f a = .ok b := by
  cases x <;> simp [Bind.bind, Except.bind]

theorem map_eq_ok {x : Except ε α} {f : α → β} {b : β} :
    x.map f = .ok b ↔ ∃ a, x = .ok a ∧ f a = b := by
  cases x <;> simp [Except.map]

theorem map_eq_error {x : Except ε α} {f : α → β} {e : ε} : x.map f = .error e ↔ x = .error e := by
  cases x <;> simp [Except.map]

theorem map_map {γ : Type} (x : Except ε α) (f : α → β) (g : β → γ) :
    (x.map f).map g = x.map fun a => g (f a) := by
  cases x <;> rfl

theorem bind_eq_error {x : Except ε α} {f : α → Except ε β} {e : ε} :
    (x >>= f) = .error e ↔ x = .error e ∨ ∃ a, x = .ok a ∧ f a = .error e := by
  cases x <;> simp [Bind.bind, Except.bind]

theorem mapError_eq_ok {ε' : Type} {x : Except ε α} {f : ε → ε'} {a : α} :
    x.mapError f = .ok a ↔ x = .ok a := by
  cases x <;> simp [Except.mapError]

theorem mapError_eq_error {ε' : Type} {x : Except ε α} {f : ε → ε'} {e : ε'} :
    x.mapError f = .error e ↔ ∃ e', x = .error e' ∧ f e' = e := by
  cases x <;> simp [Except.mapError]

theorem bind_congr {x y : Except ε α} {f g : α → Except ε β} (first : x = y)
    (rest : ∀ a, y = .ok a → f a = g a) : (x >>= f) = (y >>= g) := by
  subst first
  cases x with
  | error e => rfl
  | ok a => exact rest a rfl

theorem lift_malformed_eq_ok {r : Except Malformed α} {a : α} :
    (liftM r : Except Failure α) = .ok a ↔ r = .ok a := by
  cases r with
  | error what => exact ⟨nofun, nofun⟩
  | ok b =>
    show (Except.ok b : Except Failure α) = .ok a ↔ _
    rw [Except.ok.injEq, Except.ok.injEq]

theorem lift_malformed_eq_error {r : Except Malformed α} {f : Failure} :
    (liftM r : Except Failure α) = .error f ↔ ∃ what, r = .error what ∧ f = .malformed what := by
  cases r with
  | error what =>
    constructor
    · rintro ⟨⟩
      exact ⟨what, rfl, rfl⟩
    · rintro ⟨_, ⟨⟩, rfl⟩
      rfl
  | ok b => exact ⟨nofun, nofun⟩

theorem mapM_congr {f g : α → Except ε β} {l : List α} (agree : ∀ a ∈ l, f a = g a) :
    l.mapM f = l.mapM g := by
  induction l with
  | nil => rfl
  | cons a l ih =>
    rw [List.mapM_cons, List.mapM_cons, agree a List.mem_cons_self,
      ih fun b hb => agree b (List.mem_cons_of_mem a hb)]

theorem foldlM_induction {f : β → α → Except ε β} {P : β → Prop} {l : List α} {b b' : β}
    (start : P b) (step : ∀ b, ∀ a ∈ l, ∀ b', P b → f b a = .ok b' → P b')
    (run : l.foldlM f b = .ok b') : P b' := by
  induction l generalizing b with
  | nil =>
    cases run
    exact start
  | cons a l ih =>
    rw [List.foldlM_cons] at run
    obtain ⟨next, first, rest⟩ := bind_eq_ok.mp run
    have kept := step b a List.mem_cons_self next start first
    exact ih kept (fun b c hc => step b c (List.mem_cons_of_mem a hc)) rest

theorem forall₂_of_mapM {f : α → Except ε β} {l : List α} {bs : List β} (run : l.mapM f = .ok bs) :
    List.Forall₂ (fun a b => f a = .ok b) l bs := by
  induction l generalizing bs with
  | nil =>
    cases run
    exact .nil
  | cons a l ih =>
    rw [List.mapM_cons] at run
    obtain ⟨first, first_found, run⟩ := bind_eq_ok.mp run
    obtain ⟨rest, rest_found, run⟩ := bind_eq_ok.mp run
    cases run
    exact .cons first_found (ih rest_found)

theorem mem_of_mapM {f : α → Except ε β} {l : List α} {bs : List β} {a : α} {b : β}
    (run : l.mapM f = .ok bs) (member : a ∈ l) (found : f a = .ok b) : b ∈ bs := by
  have pairs := forall₂_of_mapM run
  obtain ⟨i, hi, rfl⟩ := List.mem_iff_getElem.mp member
  have hi' : i < bs.length := pairs.length_eq ▸ hi
  have same := Except.ok.inj (found.symm.trans (pairs.get hi hi'))
  exact same ▸ List.getElem_mem hi'

theorem exists_mapM_eq_ok {f : α → Except ε β} {l : List α} :
    (∃ bs, l.mapM f = .ok bs) ↔ ∀ a ∈ l, ∃ b, f a = .ok b := by
  constructor
  · rintro ⟨bs, run⟩ a member
    obtain ⟨i, hi, rfl⟩ := List.mem_iff_getElem.mp member
    have pairs := forall₂_of_mapM run
    exact ⟨_, pairs.get hi (pairs.length_eq ▸ hi)⟩
  · intro each
    induction l with
    | nil => exact ⟨[], rfl⟩
    | cons a l ih =>
      obtain ⟨b, found⟩ := each a List.mem_cons_self
      obtain ⟨bs, rest⟩ := ih fun c hc => each c (List.mem_cons_of_mem a hc)
      refine ⟨b :: bs, ?_⟩
      rw [List.mapM_cons, found, rest]
      rfl

theorem exists_of_mem_mapM {f : α → Except ε β} {l : List α} {bs : List β} {b : β}
    (run : l.mapM f = .ok bs) (member : b ∈ bs) : ∃ a ∈ l, f a = .ok b := by
  have pairs := forall₂_of_mapM run
  obtain ⟨i, hi, rfl⟩ := List.mem_iff_getElem.mp member
  have hi' : i < l.length := pairs.length_eq ▸ hi
  exact ⟨l[i], List.getElem_mem hi', pairs.get hi' hi⟩

theorem filterM_eq_ok {test : α → Except ε Bool} {l kept : List α}
    (run : l.filterM test = .ok kept) :
    kept = l.filter (fun a => (test a).toOption.getD false) ∧ ∀ a ∈ l, ∃ b, test a = .ok b := by
  have loop (l before after : List α) (run : l.filterAuxM test before = .ok after) :
      after = (l.filter fun a => (test a).toOption.getD false).reverse ++ before ∧
        ∀ a ∈ l, ∃ b, test a = .ok b := by
    induction l generalizing before with
    | nil =>
      cases run
      exact ⟨rfl, nofun⟩
    | cons a l ih =>
      obtain ⟨passes, answer, run⟩ := bind_eq_ok.mp run
      obtain ⟨rfl, others⟩ := ih _ run
      refine ⟨?_, List.forall_mem_cons.mpr ⟨⟨passes, answer⟩, others⟩⟩
      cases passes <;> simp [answer, Except.toOption]
  obtain ⟨reversed, run, ending⟩ := bind_eq_ok.mp run
  obtain ⟨rfl, answered⟩ := loop l [] reversed run
  cases ending
  exact ⟨by simp, answered⟩

theorem exists_error_of_any {x : Except ε α} {p : ε → Bool}
    (h : (match x with | .error e => p e | .ok _ => false) = true) :
    ∃ e, x = .error e ∧ p e = true := by
  cases x with
  | error e => exact ⟨e, rfl, h⟩
  | ok a => cases h

theorem exists_of_any {x : Except ε α} {p : α → Bool} (h : x.toOption.any p = true) :
    ∃ a, x = .ok a ∧ p a = true := by
  cases x with
  | error e => cases h
  | ok a => exact ⟨a, rfl, h⟩

end Except

namespace Logged

variable {α β : Type}

@[simp] theorem result_ofExcept (r : Except Failure α) : (ofExcept r).result = r := rfl

@[simp] theorem result_lift (r : Except Failure α) : (liftM r : Logged α).result = r := rfl

theorem lift_malformed_eq_ok {r : Except Malformed α} {a : α} :
    (liftM r : Logged α).result = .ok a ↔ r = .ok a :=
  Except.lift_malformed_eq_ok

@[simp] theorem result_map (f : α → β) (x : Logged α) : (f <$> x).result = x.result.map f := by
  show (bind x (ok ∘ f)).result = _
  cases h : x.result <;> simp [bind, h, ok, Except.map]

@[simp] theorem notes_map (f : α → β) (x : Logged α) : (f <$> x).notes = x.notes := by
  show (bind x (ok ∘ f)).notes = _
  cases h : x.result <;> simp [bind, h, ok]

theorem bind_of_ok {x : Logged α} {f : α → Logged β} {a : α} (h : x.result = .ok a) :
    (x >>= f) = ⟨x.notes ++ (f a).notes, (f a).result⟩ := by
  show bind x f = _
  simp only [bind, h]

theorem bind_of_error {x : Logged α} {f : α → Logged β} {e : Failure} (h : x.result = .error e) :
    (x >>= f) = ⟨x.notes, .error e⟩ := by
  show bind x f = _
  simp only [bind, h]

theorem bind_eq_ok {x : Logged α} {f : α → Logged β} {b : β} :
    (x >>= f).result = .ok b ↔ ∃ a, x.result = .ok a ∧ (f a).result = .ok b := by
  show (bind x f).result = .ok b ↔ _
  cases h : x.result <;> simp [bind, h]

theorem bind_eq_error {x : Logged α} {f : α → Logged β} {e : Failure} :
    (x >>= f).result = .error e ↔
      x.result = .error e ∨ ∃ a, x.result = .ok a ∧ (f a).result = .error e := by
  cases result : x.result with
  | error e' => simp [bind_of_error result]
  | ok a => simp [bind_of_ok result]

theorem bind_congr_of_ok {x : Logged α} {f g : α → Logged β}
    (agree : ∀ a, x.result = .ok a → f a = g a) : x >>= f = x >>= g := by
  cases result : x.result with
  | error e => rw [bind_of_error result, bind_of_error result]
  | ok a => rw [bind_of_ok result, bind_of_ok result, agree a result]

instance : LawfulMonad Logged := LawfulMonad.mk' Logged
  (by
    intro α x
    show bind x (ok ∘ id) = x
    obtain ⟨notes, result⟩ := x
    cases result <;> simp [bind, ok])
  (by
    intro α β a f
    show bind (ok a) f = f a
    simp [bind, ok])
  (by
    intro α β γ x f g
    show bind (bind x f) g = bind x fun a => bind (f a) g
    obtain ⟨notes, result⟩ := x
    cases result with
    | error e => rfl
    | ok a => cases h : (f a).result <;> simp [bind, h])

theorem bind_eq_mk {x : Logged α} {f : α → Logged β} {notes : List Note} {b : β} :
    (x >>= f) = ⟨notes, .ok b⟩ ↔
      ∃ before a after, x = ⟨before, .ok a⟩ ∧ f a = ⟨after, .ok b⟩ ∧ notes = before ++ after := by
  show bind x f = ⟨notes, .ok b⟩ ↔ _
  obtain ⟨before, result⟩ := x
  constructor
  · intro h
    cases result with
    | error e => cases h
    | ok a =>
      obtain ⟨rfl, found⟩ := Logged.mk.inj h
      refine ⟨before, a, (f a).notes, rfl, ?_, rfl⟩
      rw [← found]
  · rintro ⟨_, a, after, first, rest, rfl⟩
    cases first
    simp only [bind, rest]

theorem eq_mk_of_result {x : Logged α} {a : α} (h : x.result = .ok a) : x = ⟨x.notes, .ok a⟩ := by
  rw [← h]

theorem lift_bind_eq_mk {r : Except Failure α} {f : α → Logged β} {notes : List Note} {b : β} :
    ((liftM r : Logged α) >>= f) = ⟨notes, .ok b⟩ ↔ ∃ a, r = .ok a ∧ f a = ⟨notes, .ok b⟩ := by
  cases r with
  | error e => exact ⟨nofun, nofun⟩
  | ok a =>
    show (pure a >>= f) = _ ↔ _
    rw [pure_bind]
    simp

theorem lift_malformed_bind_eq_mk {r : Except Malformed α} {f : α → Logged β} {notes : List Note}
    {b : β} :
    ((liftM r : Logged α) >>= f) = ⟨notes, .ok b⟩ ↔ ∃ a, r = .ok a ∧ f a = ⟨notes, .ok b⟩ := by
  -- what is malformed makes a run fail first
  show ((liftM (liftM r : Except Failure α) : Logged α) >>= f) = _ ↔ _
  rw [lift_bind_eq_mk]
  simp only [Except.lift_malformed_eq_ok]

theorem pure_eq_mk {a b : α} {notes : List Note} :
    (pure a : Logged α) = ⟨notes, .ok b⟩ ↔ notes = [] ∧ a = b := by
  show (⟨[], .ok a⟩ : Logged α) = ⟨notes, .ok b⟩ ↔ _
  rw [Logged.mk.injEq, Except.ok.injEq, eq_comm (a := [])]

theorem note_bind_eq_mk {level : Level} {message : String} {f : Unit → Logged β}
    {notes : List Note} {b : β} : (note level message >>= f) = ⟨notes, .ok b⟩ ↔
      ∃ later, f () = ⟨later, .ok b⟩ ∧ notes = ⟨level, message⟩ :: later := by
  constructor
  · intro h
    obtain ⟨_, _, later, first, rest, rfl⟩ := bind_eq_mk.mp h
    cases first
    exact ⟨later, rest, rfl⟩
  · rintro ⟨later, rest, rfl⟩
    exact bind_eq_mk.mpr ⟨_, (), later, rfl, rest, rfl⟩

theorem foldlM_flatMap {γ : Type} (parts : α → List γ) (f : β → γ → Logged β) (l : List α) (b : β) :
    (l.flatMap parts).foldlM f b = l.foldlM (fun b a => (parts a).foldlM f b) b := by
  induction l generalizing b with
  | nil => rfl
  | cons a l ih =>
    rw [List.flatMap_cons, List.foldlM_append, List.foldlM_cons]
    exact bind_congr fun next => ih next

/-- A successful loop may use other steps that agree with its own wherever these succeed. -/
theorem foldlM_congr_of_ok {f g : β → α → Logged β} {l : List α}
    (agree : ∀ a ∈ l, ∀ b b', (f b a).result = .ok b' → f b a = g b a) {b b' : β}
    (run : (l.foldlM f b).result = .ok b') : l.foldlM f b = l.foldlM g b := by
  induction l generalizing b with
  | nil => rfl
  | cons a l ih =>
    rw [List.foldlM_cons] at run
    obtain ⟨next, first, rest⟩ := bind_eq_ok.mp run
    have later := ih (fun c hc => agree c (List.mem_cons_of_mem a hc)) rest
    have now := agree a List.mem_cons_self b next first
    have found : f b a = ⟨(f b a).notes, .ok next⟩ := eq_mk_of_result first
    rw [List.foldlM_cons, List.foldlM_cons, ← now, found]
    show bind _ _ = bind _ _
    simp only [bind, later]

/-- What every step of a successful loop keeps holds at its end, of all items and all notes. -/
theorem foldlM_trace {f : β → α → Logged β} {P : List α → List Note → β → Prop} {l : List α}
    {b b' : β} {notes : List Note} (start : P [] [] b)
    (step : ∀ past before b a after b', a ∈ l → P past before b → f b a = ⟨after, .ok b'⟩ →
      P (past ++ [a]) (before ++ after) b')
    (run : l.foldlM f b = ⟨notes, .ok b'⟩) : P l notes b' := by
  induction l using List.reverseRecOn generalizing notes b' with
  | nil =>
    cases run
    exact start
  | append_singleton l a ih =>
    simp only [List.foldlM_append, List.foldlM_cons, List.foldlM_nil, bind_pure] at run
    obtain ⟨before, next, after, first, last, rfl⟩ := bind_eq_mk.mp run
    have earlier : P l before next := by
      refine ih (fun past before b c after b' hc => ?_) first
      exact step past before b c after b' (List.mem_append_left [a] hc)
    exact step l before next a after b' (by simp) earlier last

theorem exists_of_foldlM_eq_error {f : β → α → Logged β} {l : List α} {b : β} {e : Failure}
    (run : (l.foldlM f b).result = .error e) : ∃ a ∈ l, ∃ b, (f b a).result = .error e := by
  induction l generalizing b with
  | nil => cases run
  | cons a l ih =>
    rw [List.foldlM_cons] at run
    cases first : (f b a).result with
    | error e' =>
      rw [bind_of_error first] at run
      exact ⟨a, List.mem_cons_self, b, first.trans run⟩
    | ok next =>
      rw [bind_of_ok first] at run
      obtain ⟨c, hc, found⟩ := ih run
      exact ⟨c, List.mem_cons_of_mem a hc, found⟩

/-- What two loops over one list keep between them holds at their ends, if both succeed. -/
theorem foldlM_pair {γ : Type} {f : β → α → Logged β} {g : γ → α → Logged γ} {R : β → γ → Prop}
    {l : List α} {b b' : β} {c c' : γ} (start : R b c)
    (step : ∀ b c a b' c', R b c → (f b a).result = .ok b' → (g c a).result = .ok c' → R b' c')
    (run : (l.foldlM f b).result = .ok b') (run' : (l.foldlM g c).result = .ok c') : R b' c' := by
  induction l generalizing b c with
  | nil =>
    cases run
    cases run'
    exact start
  | cons a l ih =>
    rw [List.foldlM_cons] at run run'
    obtain ⟨next, first, rest⟩ := bind_eq_ok.mp run
    obtain ⟨next', first', rest'⟩ := bind_eq_ok.mp run'
    exact ih (step b c a next next' start first first') rest rest'

/-! ### Notes of all kinds of ends -/

section Leaves

variable {P : Note → Prop}

/-- What is true of all the notes that a computation leaves, also if it fails. -/
def Leaves (P : Note → Prop) (x : Logged α) : Prop := ∀ n ∈ x.notes, P n

theorem Leaves.bind {x : Logged α} {f : α → Logged β} (first : x.Leaves P)
    (rest : ∀ a, (f a).Leaves P) : (x >>= f).Leaves P := by
  intro n hn
  cases found : x.result with
  | error e =>
    have notes : (x >>= f).notes = x.notes := by
      show (Logged.bind x f).notes = _
      simp only [Logged.bind, found]
    exact first n (notes ▸ hn)
  | ok a =>
    have notes : (x >>= f).notes = x.notes ++ (f a).notes := by
      show (Logged.bind x f).notes = _
      simp only [Logged.bind, found]
    rw [notes] at hn
    exact (List.mem_append.mp hn).elim (first n) (rest a n)

theorem leaves_ofExcept (r : Except Failure α) : (ofExcept r).Leaves P := by
  intro n hn
  cases hn

theorem leaves_note {level : Level} {message : String} (h : P ⟨level, message⟩) :
    (note level message).Leaves P := by
  intro n hn
  rw [List.mem_singleton.mp hn]
  exact h

theorem leaves_lift (r : Except Malformed α) : (liftM r : Logged α).Leaves P := by
  intro n hn
  cases hn

end Leaves

end Logged

end ApiOutline
