import ApiOutline.Failure
import ApiOutline.Tree.Display
import ApiOutline.Text.Integer

/-!
References inside a document. A reference is `#` followed by the steps of a path, each after a
slash; in a step `~1` stands for a slash and `~0` for a tilde. An object with a `$ref` key is a
reference and stands for what it leads to, however many references that takes.
-/
namespace ApiOutline.Reference

def unescape : List Char → List Char
  | [] => []
  | '~' :: '1' :: cs => '/' :: unescape cs
  | '~' :: '0' :: cs => '~' :: unescape cs
  | c :: cs => c :: unescape cs

def escape (cs : List Char) : List Char :=
  cs.flatMap fun c => if c = '~' then ['~', '0'] else if c = '/' then ['~', '1'] else [c]

def segments (path : List Char) : List String :=
  (path.splitOn '/').map fun s => String.ofList (unescape s)

def name (reference : String) : String := (segments reference.toList).getLastD ""

/-- A position in a list: any integer as people write it, with not too many digits. -/
def position? (segment : String) : Option Int := Text.boundedInteger? 10 segment.toList

/-- The item at a position; a negative position counts from the end. -/
def itemAt? (items : List Tree) (i : Int) : Option Tree :=
  if 0 ≤ i then items[i.toNat]?
  else if i.natAbs ≤ items.length then items[items.length - i.natAbs]? else none

def step (reference : String) (t : Tree) (segment : String) : Except ReferenceFault Tree :=
  match t with
  | .object o _ =>
    match Object.get? o (.text segment) with
    | some v => .ok v
    | none => .error (.missingKey reference segment)
  | .list items _ =>
    match (position? segment).bind (itemAt? items) with
    | some v => .ok v
    | none => .error (.badPosition reference segment)
  | t => .error (.notNavigable reference t.kindWord)

def walk (reference : String) : Tree → List String → Except ReferenceFault Tree
  | t, [] => .ok t
  | t, s :: rest =>
    match step reference t s with
    | .ok v => walk reference v rest
    | .error e => .error e

def target (root : Tree) (r : String) : Except ReferenceFault Tree :=
  match r.toList with
  | '#' :: '/' :: path => walk r root (segments path)
  | _ => .error (.external r)

def lookup [Machine] (root reference : Tree) : Except Failure Tree :=
  match reference with
  | .scalar (.text r) => (target root r).mapError .reference
  | reference =>
    match reference.display with
    | .ok shown => .error (.reference (.external shown))
    | .error what => .error (.malformed what)

def of? : Tree → Option Tree
  | .object o _ => Object.get? o (.text "$ref")
  | _ => none

def text? (t : Tree) : Option String := (of? t).bind Tree.text?

/-! ### References to references

A chain of references has no end only if it comes to a text again. Apart from the first one, all
texts of a chain stand in the document, so there are not more of them than the document has. -/

mutual

def texts : Tree → List String
  | .scalar _ => []
  | .set _ => []
  | .pair a b => texts a ++ texts b
  | .list items _ => textsOfItems items
  | .object entries _ =>
    ((Object.get? entries (.text "$ref")).bind Tree.text?).toList ++ textsOfEntries entries

def textsOfItems : List Tree → List String
  | [] => []
  | t :: ts => texts t ++ textsOfItems ts

def textsOfEntries : List (Scalar × Tree) → List String
  | [] => []
  | (_, v) :: es => texts v ++ textsOfEntries es

end

theorem texts_subset_textsOfItems {t : Tree} {ts : List Tree} (h : t ∈ ts) :
    texts t ⊆ textsOfItems ts := by
  induction ts with
  | nil => cases h
  | cons u us ih =>
    intro r hr
    rcases List.mem_cons.1 h with rfl | h
    · exact List.mem_append.2 (.inl hr)
    · exact List.mem_append.2 (.inr (ih h hr))

theorem texts_subset_textsOfEntries {e : Scalar × Tree} {es : List (Scalar × Tree)} (h : e ∈ es) :
    texts e.2 ⊆ textsOfEntries es := by
  induction es with
  | nil => cases h
  | cons f fs ih =>
    intro r hr
    rcases List.mem_cons.1 h with rfl | h
    · exact List.mem_append.2 (.inl hr)
    · exact List.mem_append.2 (.inr (ih h hr))

theorem texts_subset_of_get? {o : Object} {k : Scalar} {v : Tree} (h : o.get? k = some v) :
    texts v ⊆ textsOfEntries o := by
  obtain ⟨e, he, rfl⟩ := Option.map_eq_some_iff.1 h
  exact texts_subset_textsOfEntries (List.mem_of_find?_eq_some he)

theorem mem_of_itemAt? {items : List Tree} {i : Int} {v : Tree} (h : itemAt? items i = some v) :
    v ∈ items := by
  unfold itemAt? at h
  split at h
  · exact List.mem_of_getElem? h
  · split at h
    · exact List.mem_of_getElem? h
    · cases h

theorem texts_subset_of_step {r s : String} {t v : Tree} (h : step r t s = .ok v) :
    texts v ⊆ texts t := by
  unfold step at h
  split at h
  · next o _ =>
    split at h
    · next w hw =>
      cases h
      exact fun x hx => List.mem_append.2 (.inr (texts_subset_of_get? hw hx))
    · cases h
  · next items _ =>
    split at h
    · next w hw =>
      cases h
      obtain ⟨i, _, hi⟩ := Option.bind_eq_some_iff.1 hw
      exact texts_subset_textsOfItems (mem_of_itemAt? hi)
    · cases h
  · cases h

theorem texts_subset_of_walk {r : String} {ss : List String} {t v : Tree}
    (h : walk r t ss = .ok v) : texts v ⊆ texts t := by
  induction ss generalizing t with
  | nil =>
    cases h
    exact fun _ h => h
  | cons s ss ih =>
    unfold walk at h
    split at h
    · next u hu => exact fun x hx => texts_subset_of_step hu (ih h hx)
    · cases h

theorem texts_subset_of_target {r : String} {root v : Tree} (h : target root r = .ok v) :
    texts v ⊆ texts root := by
  unfold target at h
  split at h
  · exact texts_subset_of_walk h
  · cases h

theorem mem_texts_of_text? {t : Tree} {r : String} (h : text? t = some r) : r ∈ texts t := by
  cases t with
  | object o loop => exact List.mem_append.2 (.inl (by simpa [text?, of?] using h))
  | _ => simp [text?, of?] at h

/-- The texts in a document that a chain has not come to yet, and one more for a value outside the
document. -/
def remaining (root : Tree) (seen : List String) (t : Tree) : Nat :=
  ((texts root).filter fun r => !seen.contains r).length
    + if (text? t).all (texts root).contains then 0 else 1

theorem filter_eq_filter_filter {α : Type} {p q : α → Bool} {xs : List α}
    (h : ∀ y, q y = true → p y = true) : xs.filter q = (xs.filter p).filter q := by
  rw [List.filter_filter]
  refine List.filter_congr fun y _ => ?_
  cases hy : q y with
  | false => simp
  | true => simp [h y hy]

theorem length_filter_lt {α : Type} {p q : α → Bool} {x : α} {xs : List α} (hx : x ∈ xs)
    (hp : p x = true) (hq : q x = false) (h : ∀ y, q y = true → p y = true) :
    (xs.filter q).length < (xs.filter p).length := by
  rw [filter_eq_filter_filter h]
  refine Nat.lt_of_le_of_ne (List.length_filter_le _ _) fun heq => ?_
  have := (List.length_filter_eq_length_iff.1 heq) x (List.mem_filter.2 ⟨hx, hp⟩)
  simp [hq] at this

theorem remaining_lt {root t v : Tree} {seen : List String} {r : String} (hr : text? t = some r)
    (hseen : ¬ seen.contains r = true) (hv : target root r = .ok v) :
    remaining root (r :: seen) v < remaining root seen t := by
  have hall : (text? v).all (texts root).contains = true := by
    cases hs : text? v with
    | none => rfl
    | some s => simpa using texts_subset_of_target hv (mem_texts_of_text? hs)
  have hle : ((texts root).filter fun s => !(r :: seen).contains s).length
      ≤ ((texts root).filter fun s => !seen.contains s).length := by
    rw [filter_eq_filter_filter (p := fun s => !seen.contains s) (by simp)]
    exact List.length_filter_le _ _
  unfold remaining
  rw [if_pos hall, hr]
  by_cases hin : r ∈ texts root
  · have : ((texts root).filter fun s => !(r :: seen).contains s).length
        < ((texts root).filter fun s => !seen.contains s).length :=
      length_filter_lt hin (by simpa using hseen) (by simp) (by simp)
    omega
  · rw [if_neg (by simpa using hin)]
    omega

/-- Follows references until a value that is none. A reference that was followed before leads in a
circle. -/
def follow [Machine] (root : Tree) (seen : List String) (t : Tree) : Except Failure Tree :=
  match of? t with
  | none => .ok t
  | some reference =>
    match hr : text? t with
    | some r =>
      if hseen : seen.contains r then .error (.reference (.circular r))
      else
        match hv : target root r with
        | .ok v =>
          have := remaining_lt hr hseen hv
          follow root (r :: seen) v
        | .error e => .error (.reference e)
    | none =>
      match reference with
      | .scalar _ => lookup root reference
      | _ => .error (.malformed .compoundKey)
termination_by remaining root seen t

def resolve [Machine] (root t : Tree) : Except Failure Tree := follow root [] t

end ApiOutline.Reference
