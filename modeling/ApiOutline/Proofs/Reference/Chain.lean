import Mathlib.Data.List.Dedup
import ApiOutline.Proofs.Reference.Hereditary

/-! Chains of references. Following references from a value comes to the first value of its chain
that is no reference, to the first reference of the chain that leads nowhere, or to a text for the
second time; the last of these happens exactly if the chain has no end. No text is looked up twice,
so there are not more look-ups than texts of references in the document, and one more for the value
that the chain starts with. -/
namespace ApiOutline

namespace Tree

mutual

def refersByText : Tree → Bool
  | .scalar _ => true
  | .set _ => true
  | .pair a b => a.refersByText && b.refersByText
  | .list items _ => itemsReferByText items
  | .object entries _ => entriesReferByText entries

def itemsReferByText : List Tree → Bool
  | [] => true
  | t :: ts => t.refersByText && itemsReferByText ts

def entriesReferByText : List (Scalar × Tree) → Bool
  | [] => true
  | (k, v) :: rest =>
    (k.identity != .text "$ref" || v.text?.isSome) && v.refersByText && entriesReferByText rest

end

theorem itemsReferByText_iff {items : List Tree} :
    itemsReferByText items = true ↔ ∀ t ∈ items, t.refersByText = true := by
  induction items with
  | nil => simp [itemsReferByText]
  | cons t ts ih => simp [itemsReferByText, ih]

theorem entriesReferByText_iff {o : Object} : entriesReferByText o = true ↔
    ∀ e ∈ o, (e.1.identity = .text "$ref" → e.2.text?.isSome = true) ∧
      e.2.refersByText = true := by
  induction o with
  | nil => simp [entriesReferByText]
  | cons e es ih =>
    rw [List.forall_mem_cons, ← ih]
    simp [entriesReferByText, imp_iff_not_or]

theorem refersByText_hereditary : Hereditary (·.refersByText = true) where
  null := rfl
  empty := rfl
  object := id
  entry h he := (entriesReferByText_iff.mp h _ he).2
  item h ht := itemsReferByText_iff.mp h _ ht

end Tree

namespace Reference

variable {root t u v : Tree} {r : String}

theorem of?_of_refersByText (h : t.refersByText = true) :
    of? t = none ∨ ∃ r, of? t = some (.text r) := by
  cases reference : of? t with
  | none => exact .inl rfl
  | some w =>
    cases t with
    | object o loop =>
      obtain ⟨e, member, same_key, rfl⟩ := Object.get?_eq_some reference
      obtain ⟨r, is_text⟩ :=
        Option.isSome_iff_exists.mp ((Tree.entriesReferByText_iff.mp h e member).1 same_key)
      exact .inr ⟨r, congrArg some (Tree.eq_text_of_text? is_text)⟩
    | _ => cases reference

/-! ### Chains -/

section

variable [Machine]

def Next (root t u : Tree) : Prop := ∃ reference, of? t = some reference ∧
  lookup root reference = .ok u

inductive Leads (root : Tree) : Nat → Tree → Tree → Prop where
  | here (t : Tree) : Leads root 0 t t
  | step {n : Nat} {t u v : Tree} : Next root t u → Leads root n u v → Leads root (n + 1) t v

/-- A chain ends with a value that is no reference. -/
def EndsWith (root t v : Tree) : Prop := ∃ n, Leads root n t v ∧ of? v = none

/-- A chain comes to a reference that leads nowhere. -/
def BreaksWith (root t : Tree) (e : Failure) : Prop := ∃ n v reference, Leads root n t v ∧
  of? v = some reference ∧ lookup root reference = .error e

/-- A chain without an end, neither of the one kind nor of the other. -/
structure Endless (root t : Tree) : Prop where
  not_ends : ∀ v, ¬ EndsWith root t v
  not_breaks : ∀ e, ¬ BreaksWith root t e

theorem Next.unique (first : Next root t u) (second : Next root t v) : u = v := by
  obtain ⟨reference, is_reference, found⟩ := first
  obtain ⟨reference', is_reference', found'⟩ := second
  cases is_reference.symm.trans is_reference'
  exact Except.ok.inj (found.symm.trans found')

theorem next_of_target (reference : of? t = some (.text r)) (found : target root r = .ok u) :
    Next root t u :=
  ⟨.text r, reference, Except.mapError_eq_ok.mpr found⟩

theorem Leads.snoc {n : Nat} (leads : Leads root n t u) (next : Next root u v) :
    Leads root (n + 1) t v := by
  induction leads with
  | here t => exact .step next (.here v)
  | step first _ ih => exact .step first (ih next)

/-- All chains from a value that cannot go on come to one value. -/
theorem Leads.unique {n m : Nat} {w : Tree} (first : Leads root n t v) (second : Leads root m t w)
    (stops : ∀ u, ¬ Next root v u) (stops' : ∀ u, ¬ Next root w u) : v = w := by
  induction first generalizing m with
  | here t =>
    cases second with
    | here => rfl
    | step next => exact absurd next (stops _)
  | step next _ ih =>
    cases second with
    | here => exact absurd next (stops' _)
    | step next' rest => exact ih (next.unique next' ▸ rest) stops

theorem not_next_of_plain (plain : of? t = none) : ¬ Next root t u := by
  rintro ⟨reference, is_reference, _⟩
  rw [plain] at is_reference
  cases is_reference

theorem not_next_of_error {reference : Tree} {e : Failure} (is_reference : of? t = some reference)
    (fails : lookup root reference = .error e) : ¬ Next root t u := by
  rintro ⟨reference', is_reference', found⟩
  cases is_reference.symm.trans is_reference'
  cases found.symm.trans fails

theorem EndsWith.unique (ends : EndsWith root t u) (ends' : EndsWith root t v) : u = v := by
  obtain ⟨n, leads, plain⟩ := ends
  obtain ⟨m, leads', plain'⟩ := ends'
  exact leads.unique leads' (fun _ => not_next_of_plain plain) fun _ => not_next_of_plain plain'

/-- A chain that ends does not break. -/
theorem EndsWith.not_breaks {e : Failure} (ends : EndsWith root t u) : ¬ BreaksWith root t e := by
  obtain ⟨n, leads, plain⟩ := ends
  rintro ⟨m, v, reference, leads', is_reference, fails⟩
  have same := leads.unique leads' (fun _ => not_next_of_plain plain)
    fun _ => not_next_of_error is_reference fails
  rw [← same, plain] at is_reference
  cases is_reference

theorem BreaksWith.unique {e e' : Failure} (breaks : BreaksWith root t e)
    (breaks' : BreaksWith root t e') : e = e' := by
  obtain ⟨n, v, reference, leads, is_reference, fails⟩ := breaks
  obtain ⟨m, v', reference', leads', is_reference', fails'⟩ := breaks'
  cases leads.unique leads' (fun _ => not_next_of_error is_reference fails)
    fun _ => not_next_of_error is_reference' fails'
  cases is_reference.symm.trans is_reference'
  exact Except.error.inj (fails.symm.trans fails')

theorem endsWith_iff_of_next (next : Next root t u) : EndsWith root t v ↔ EndsWith root u v := by
  constructor
  · rintro ⟨n, leads, plain⟩
    cases leads with
    | here => exact absurd next (not_next_of_plain plain)
    | step next' rest => exact ⟨_, next'.unique next ▸ rest, plain⟩
  · rintro ⟨n, leads, plain⟩
    exact ⟨n + 1, .step next leads, plain⟩

theorem breaksWith_iff_of_next {e : Failure} (next : Next root t u) :
    BreaksWith root t e ↔ BreaksWith root u e := by
  constructor
  · rintro ⟨n, v, reference, leads, is_reference, fails⟩
    cases leads with
    | here => exact absurd next (not_next_of_error is_reference fails)
    | step next' rest => exact ⟨_, v, reference, next'.unique next ▸ rest, is_reference, fails⟩
  · rintro ⟨n, v, reference, leads, is_reference, fails⟩
    exact ⟨n + 1, v, reference, .step next leads, is_reference, fails⟩

theorem Endless.of_next (next : Next root t u) (endless : Endless root u) : Endless root t where
  not_ends v ends := endless.not_ends v ((endsWith_iff_of_next next).mp ends)
  not_breaks e breaks := endless.not_breaks e ((breaksWith_iff_of_next next).mp breaks)

theorem endless_of_next {P : Tree → Prop} (goes_on : ∀ t, P t → ∃ u, Next root t u ∧ P u)
    (start : P t) : Endless root t := by
  have inside {n : Nat} {t v : Tree} (leads : Leads root n t v) (start : P t) : P v := by
    induction leads with
    | here t => exact start
    | step next _ ih =>
      obtain ⟨u, next', inside⟩ := goes_on _ start
      exact ih (next.unique next' ▸ inside)
  constructor
  · rintro v ⟨n, leads, plain⟩
    obtain ⟨u, next, _⟩ := goes_on v (inside leads start)
    exact not_next_of_plain plain next
  · rintro e ⟨n, v, reference, leads, is_reference, fails⟩
    obtain ⟨u, next, _⟩ := goes_on v (inside leads start)
    exact not_next_of_error is_reference fails next

/-! ### Look-ups -/

/-- The texts that are looked up from a value on, after others were, and what that comes to. -/
inductive Looks (root : Tree) : List String → Tree → List String → Except Failure Tree → Prop where
  | plain {seen : List String} {t : Tree} : of? t = none → Looks root seen t [] (.ok t)
  | again {seen : List String} {t : Tree} {r : String} : of? t = some (.text r) → r ∈ seen →
      Looks root seen t [] (.error (.reference (.circular r)))
  | nowhere {seen : List String} {t : Tree} {r : String} {e : ReferenceFault} :
      of? t = some (.text r) → r ∉ seen → target root r = .error e →
      Looks root seen t [r] (.error (.reference e))
  | found {seen texts : List String} {t u : Tree} {r : String} {outcome : Except Failure Tree} :
      of? t = some (.text r) → r ∉ seen → target root r = .ok u →
      Looks root (r :: seen) u texts outcome → Looks root seen t (r :: texts) outcome

theorem looks_of_follow (whole : root.refersByText = true) (seen : List String)
    (h : t.refersByText = true) : ∃ texts, Looks root seen t texts (follow root seen t) := by
  have not_other {t c : Tree} (h : t.refersByText = true) (reference : of? t = some c)
      (other : c.text? = none) : False := by
    rcases of?_of_refersByText h with plain | ⟨r, is_text⟩
    · cases plain.symm.trans reference
    · cases is_text.symm.trans reference
      cases other
  refine follow_induction (P := fun seen t outcome => t.refersByText = true →
      ∃ texts, Looks root seen t texts outcome) ?_ ?_ ?_ ?_ ?_ ?_ seen t h
  · exact fun plain _ => ⟨[], .plain plain⟩
  · exact fun reference again _ => ⟨[], .again reference again⟩
  · exact fun reference fresh fails _ => ⟨_, .nowhere reference fresh fails⟩
  · intro seen t u r outcome reference fresh found ih _
    obtain ⟨texts, looks⟩ := ih (Tree.refersByText_hereditary.target whole found)
    exact ⟨r :: texts, .found reference fresh found looks⟩
  · exact fun reference other h => (not_other h reference other).elim
  · intro seen t c reference compound h
    exact (not_other h reference (Tree.text?_of_compound compound)).elim

section Looks

variable {seen looked : List String} {outcome : Except Failure Tree}

omit [Machine] in
theorem Looks.nodup (looks : Looks root seen t looked outcome) :
    looked.Nodup ∧ ∀ r ∈ looked, r ∉ seen := by
  induction looks with
  | plain => exact ⟨List.nodup_nil, fun _ h => by cases h⟩
  | again => exact ⟨List.nodup_nil, fun _ h => by cases h⟩
  | nowhere _ fresh => exact ⟨List.nodup_singleton _, fun s hs => List.mem_singleton.mp hs ▸ fresh⟩
  | @found _ _ _ _ r _ _ fresh _ _ ih =>
    obtain ⟨distinct, apart⟩ := ih
    refine ⟨List.nodup_cons.mpr ⟨fun later => apart r later List.mem_cons_self, distinct⟩, ?_⟩
    intro s hs
    rcases List.mem_cons.mp hs with rfl | later
    · exact fresh
    · exact fun before => apart s later (List.mem_cons_of_mem r before)

omit [Machine] in
theorem mem_texts_of_of? (reference : of? t = some (.text r)) : r ∈ texts t :=
  mem_texts_of_text? (by rw [text?, reference]; rfl)

omit [Machine] in
theorem Looks.subset_texts (looks : Looks root seen t looked outcome)
    (inside : texts t ⊆ texts root) : looked ⊆ texts root := by
  induction looks with
  | plain => exact List.nil_subset _
  | again => exact List.nil_subset _
  | nowhere reference => exact List.cons_subset.mpr ⟨inside (mem_texts_of_of? reference), by simp⟩
  | found reference _ found _ ih =>
    exact List.cons_subset.mpr
      ⟨inside (mem_texts_of_of? reference), ih (texts_subset_of_target found)⟩

omit [Machine] in
/-- The first text may stand in a value outside the document, all others stand in the document. -/
theorem Looks.length_le (looks : Looks root seen t looked outcome) :
    looked.length ≤ (texts root).dedup.length + 1 := by
  have bounded {later : List String} (distinct : later.Nodup) (inside : later ⊆ texts root) :
      later.length ≤ (texts root).dedup.length :=
    distinct.length_le_of_subset fun s hs => List.mem_dedup.mpr (inside hs)
  have distinct := looks.nodup.1
  cases looks with
  | plain => exact Nat.zero_le _
  | again => exact Nat.zero_le _
  | nowhere => exact Nat.succ_le_succ (Nat.zero_le _)
  | found _ _ found later =>
    refine Nat.succ_le_succ (bounded (List.nodup_cons.mp distinct).2 ?_)
    exact later.subset_texts (texts_subset_of_target found)

def Behind (root : Tree) (seen : List String) (t : Tree) : Prop :=
  ∀ r ∈ seen, ∃ u n, target root r = .ok u ∧ Leads root n u t

theorem Behind.next (behind : Behind root seen t) (reference : of? t = some (.text r))
    (found : target root r = .ok u) : Behind root (r :: seen) u := by
  intro s hs
  rcases List.mem_cons.mp hs with rfl | before
  · exact ⟨u, 0, found, .here u⟩
  · obtain ⟨w, n, led, leads⟩ := behind s before
    exact ⟨w, n + 1, led, leads.snoc (next_of_target reference found)⟩

/-- A chain that comes to a text again goes round for ever. -/
theorem endless_of_again (behind : Behind root seen t) (reference : of? t = some (.text r))
    (again : r ∈ seen) : Endless root t := by
  obtain ⟨u, n, found, leads⟩ := behind r again
  have next : Next root t u := next_of_target reference found
  -- the values on the way back to this one
  refine endless_of_next (P := fun w => ∃ n, Leads root n w t) ?_ ⟨0, .here t⟩
  rintro w ⟨m, way⟩
  cases way with
  | here => exact ⟨u, next, n, leads⟩
  | step first rest => exact ⟨_, first, _, rest⟩

/-- What following references comes to, by the chain of the value. -/
inductive Fate (root t : Tree) : Except Failure Tree → Prop where
  | ends {v : Tree} : EndsWith root t v → Fate root t (.ok v)
  | breaks {e : Failure} : BreaksWith root t e → Fate root t (.error e)
  | circles {r : String} : Endless root t → Fate root t (.error (.reference (.circular r)))

theorem Fate.of_next (next : Next root t u) (fate : Fate root u outcome) : Fate root t outcome := by
  cases fate with
  | ends ends => exact .ends ((endsWith_iff_of_next next).mpr ends)
  | breaks breaks => exact .breaks ((breaksWith_iff_of_next next).mpr breaks)
  | circles endless => exact .circles (endless.of_next next)

theorem Looks.fate (looks : Looks root seen t looked outcome) (behind : Behind root seen t) :
    Fate root t outcome := by
  induction looks with
  | plain plain => exact .ends ⟨0, .here _, plain⟩
  | again reference again => exact .circles (endless_of_again behind reference again)
  | nowhere reference _ fails =>
    exact .breaks ⟨0, _, _, .here _, reference, Except.mapError_eq_error.mpr ⟨_, fails, rfl⟩⟩
  | found reference _ found _ ih =>
    exact (ih (behind.next reference found)).of_next (next_of_target reference found)

end Looks

/-! ### What a value stands for -/

omit [Machine] in
theorem ne_circular_of_step {segment : String} {f : ReferenceFault}
    (fails : step r t segment = .error f) (s : String) : f ≠ .circular s := by
  unfold step at fails
  split at fails
  · split at fails
    · cases fails
    · cases fails
      exact nofun
  · split at fails
    · cases fails
    · cases fails
      exact nofun
  · cases fails
    exact nofun

omit [Machine] in
theorem ne_circular_of_walk {segments : List String} {f : ReferenceFault}
    (fails : walk r t segments = .error f) (s : String) : f ≠ .circular s := by
  induction segments generalizing t with
  | nil => cases fails
  | cons segment rest ih =>
    unfold walk at fails
    split at fails
    · exact ih fails
    · rename_i fails_here
      cases fails
      exact ne_circular_of_step fails_here s

theorem ne_circular_of_lookup {reference : Tree} {e : Failure}
    (fails : lookup root reference = .error e) (s : String) : e ≠ .reference (.circular s) := by
  unfold lookup at fails
  split at fails
  · obtain ⟨f, missed, rfl⟩ := Except.mapError_eq_error.mp fails
    unfold target at missed
    split at missed
    · exact fun same => ne_circular_of_walk missed s (Failure.reference.inj same)
    · cases missed
      exact nofun
  · split at fails
    · cases fails
      exact nofun
    · cases fails
      exact nofun

section Fate

variable {outcome : Except Failure Tree}

theorem Fate.eq_ok_iff (fate : Fate root t outcome) : outcome = .ok v ↔ EndsWith root t v := by
  cases fate with
  | ends ends => exact ⟨fun same => Except.ok.inj same ▸ ends, fun ends' => ends.unique ends' ▸ rfl⟩
  | breaks breaks => exact ⟨nofun, fun ends => absurd breaks ends.not_breaks⟩
  | circles endless => exact ⟨nofun, fun ends => absurd ends (endless.not_ends v)⟩

theorem BreaksWith.ne_circular {e : Failure} (breaks : BreaksWith root t e) (s : String) :
    e ≠ .reference (.circular s) := by
  obtain ⟨_, _, _, _, _, fails⟩ := breaks
  exact ne_circular_of_lookup fails s

theorem Fate.circular_iff (fate : Fate root t outcome) :
    (∃ r, outcome = .error (.reference (.circular r))) ↔ Endless root t := by
  cases fate with
  | ends ends => exact ⟨nofun, fun endless => absurd ends (endless.not_ends _)⟩
  | breaks breaks =>
    refine ⟨?_, fun endless => absurd breaks (endless.not_breaks _)⟩
    rintro ⟨r, same⟩
    exact absurd (Except.error.inj same) (breaks.ne_circular r)
  | circles endless => exact ⟨fun _ => endless, fun _ => ⟨_, rfl⟩⟩

theorem Fate.eq_error_iff {e : Failure} (fate : Fate root t outcome)
    (other : ∀ r, e ≠ .reference (.circular r)) : outcome = .error e ↔ BreaksWith root t e := by
  cases fate with
  | ends ends => exact ⟨nofun, fun breaks => absurd breaks ends.not_breaks⟩
  | breaks breaks =>
    exact ⟨fun same => Except.error.inj same ▸ breaks, fun breaks' => breaks.unique breaks' ▸ rfl⟩
  | circles endless =>
    refine ⟨fun same => ?_, fun breaks => absurd breaks (endless.not_breaks e)⟩
    exact absurd (Except.error.inj same).symm (other _)

end Fate

/-- Following references comes to an end after at most one more look-up than the document has texts
of references. It comes to the value that ends the chain, which stands for itself, or to the failure
that breaks it, or, exactly if there is neither, to a circle. -/
theorem resolve_follows_chain (root t : Tree) (whole : root.refersByText = true)
    (given : t.refersByText = true) :
    (∃ looked, Looks root [] t looked (resolve root t) ∧
      looked.length ≤ (texts root).dedup.length + 1) ∧
    (∀ v, resolve root t = .ok v ↔ EndsWith root t v) ∧
    (∀ v, resolve root t = .ok v → resolve root v = .ok v) ∧
    ((∃ r, resolve root t = .error (.reference (.circular r))) ↔ Endless root t) ∧
    ∀ e, (∀ r, e ≠ .reference (.circular r)) →
      (resolve root t = .error e ↔ BreaksWith root t e) := by
  obtain ⟨looked, looks⟩ := looks_of_follow whole [] given
  have fate : Fate root t (resolve root t) := looks.fate fun _ hr => by cases hr
  exact ⟨⟨looked, looks, looks.length_le⟩, fun v => fate.eq_ok_iff,
    fun v found => resolve_of_plain (of?_of_resolve found), fate.circular_iff,
    fun e other => fate.eq_error_iff other⟩

end

/-- A document with a reference to the last item of a list, which is a reference itself, and with
two references that lead to one another. -/
def maze : Tree := .record [
  ("entrance", .record [("$ref", .text "#/rooms/-1")]),
  ("rooms", .list [.text "cellar", .record [("$ref", .text "#/a~1b/0")]]),
  ("a/b", .list [.record [("type", .text "object")]]),
  ("left", .record [("$ref", .text "#/right")]),
  ("right", .record [("$ref", .text "#/left")])]

theorem maze_resolved :
    resolve maze (.record [("$ref", .text "#/entrance")]) =
      .ok (.record [("type", .text "object")]) ∧
    ∃ r, resolve maze (.record [("$ref", .text "#/left")]) =
      .error (.reference (.circular r)) := by
  have follows (r : String) (u : Tree) (found : target maze r = .ok u) :
      Next maze (.record [("$ref", .text r)]) u := next_of_target rfl found
  constructor
  · have way := resolve_follows_chain maze (.record [("$ref", .text "#/entrance")]) rfl rfl
    refine (way.2.1 _).mpr ⟨3, ?_, rfl⟩
    exact .step (follows _ _ rfl) (.step (follows _ _ rfl) (.step (follows _ _ rfl) (.here _)))
  · have way := resolve_follows_chain maze (.record [("$ref", .text "#/left")]) rfl rfl
    refine way.2.2.2.1.mpr (endless_of_next
      (P := fun w => w = .record [("$ref", .text "#/left")] ∨
        w = .record [("$ref", .text "#/right")]) ?_ (.inl rfl))
    rintro w (rfl | rfl)
    · exact ⟨_, follows "#/left" (.record [("$ref", .text "#/right")]) rfl, .inr rfl⟩
    · exact ⟨_, follows "#/right" (.record [("$ref", .text "#/left")]) rfl, .inl rfl⟩

end Reference

end ApiOutline
