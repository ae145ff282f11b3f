import ApiOutline.Operation.Link
import ApiOutline.Operation.Payload
import ApiOutline.Proofs.Operation.Site
import ApiOutline.Proofs.Scalar
import ApiOutline.Proofs.Text.Integer

/-! The response of an operation. Its status and its entry are looked for one after the other, the
second time by the text of the key that was found first, and both searches come to one entry. -/
namespace ApiOutline.Site

/-! ### Searches among keys that are shown -/

section Search

variable {p : String → Bool} {before after o : Object} {e : Scalar × Tree}

def Passed (p : String → Bool) (e : Scalar × Tree) : Prop :=
  ∃ shown, e.1.display = .ok shown ∧ p shown = false

theorem findShown_append (passed : ∀ e ∈ before, Passed p e) :
    findShown p (before ++ after) = findShown p after := by
  induction before with
  | nil => rfl
  | cons e before ih =>
    obtain ⟨shown, found, other⟩ := passed e List.mem_cons_self
    have rest := ih fun d hd => passed d (List.mem_cons_of_mem e hd)
    rw [List.cons_append, findShown, found]
    simpa [Bind.bind, Except.bind, other] using rest

theorem findShown_hit {shown : String} (passed : ∀ e ∈ before, Passed p e)
    (found : e.1.display = .ok shown) (hit : p shown = true) :
    findShown p (before ++ e :: after) = .ok (some (shown, e.2)) := by
  rw [findShown_append passed, findShown, found]
  simp [Bind.bind, Except.bind, hit]

theorem findShown_stuck {what : Malformed} (passed : ∀ e ∈ before, Passed p e)
    (hidden : e.1.display = .error what) :
    findShown p (before ++ e :: after) = .error what := by
  rw [findShown_append passed, findShown, hidden]
  rfl

theorem search_cases (p : String → Bool) (o : Object) : (∀ e ∈ o, Passed p e) ∨
    ∃ before e after, o = before ++ e :: after ∧ (∀ d ∈ before, Passed p d) ∧
      ((∃ shown, e.1.display = .ok shown ∧ p shown = true) ∨
        ∃ what, e.1.display = .error what) := by
  induction o with
  | nil => exact .inl nofun
  | cons e o ih =>
    cases found : e.1.display with
    | error what => exact .inr ⟨[], e, o, rfl, nofun, .inr ⟨what, found⟩⟩
    | ok shown =>
      cases hit : p shown with
      | true => exact .inr ⟨[], e, o, rfl, nofun, .inl ⟨shown, found, hit⟩⟩
      | false =>
        have first : Passed p e := ⟨shown, found, hit⟩
        rcases ih with all | ⟨before, d, after, rfl, passed, ending⟩
        · exact .inl (List.forall_mem_cons.mpr ⟨first, all⟩)
        · exact .inr ⟨e :: before, d, after, rfl, List.forall_mem_cons.mpr ⟨first, passed⟩, ending⟩

theorem findShown_missed (passed : ∀ e ∈ o, Passed p e) : findShown p o = .ok none := by
  have all : findShown p (o ++ []) = findShown p [] := findShown_append passed
  rwa [List.append_nil] at all

end Search

/-! ### The entry that is chosen -/

/-- What `^2[0-9]{2}$` finds in a text; a last line feed may follow the end that is meant. -/
def IsSuccess (status : String) : Prop :=
  ∃ a b, a.isDigit = true ∧ b.isDigit = true ∧
    (status.toList = ['2', a, b] ∨ status.toList = ['2', a, b, '\n'])

theorem isSuccess_iff (status : String) : isSuccess status = true ↔ IsSuccess status := by
  unfold isSuccess
  constructor
  · split
    · rename_i a b written
      simp only [Bool.and_eq_true]
      rintro ⟨first, second⟩
      exact ⟨a, b, first, second, .inl written⟩
    · rename_i a b written
      simp only [Bool.and_eq_true]
      rintro ⟨first, second⟩
      exact ⟨a, b, first, second, .inr written⟩
    · nofun
  · rintro ⟨a, b, first, second, written | written⟩
    · simp [written, first, second]
    · simp [written, first, second]

/-- The keys of responses: texts, and integers for those that are not quoted. -/
inductive IsStatusKey : Scalar → Prop where
  | text (s : String) : IsStatusKey (.text s)
  | number (i : Int) : IsStatusKey (.int i)

def shown? (k : Scalar) : Option String := k.display.toOption

/-- The first entry of a successful status, or else the one under the word `default`. -/
def chosen? (entries : Object) : Option (Scalar × Tree) :=
  (entries.find? fun e => (shown? e.1).any isSuccess).or
    (entries.find? fun e => e.1 == .text "default")

def IsLong (i : Int) : Prop := Nat.pow 10 Text.mostDigits ≤ i.natAbs

/-- An integer with too many digits stands before all successful statuses. -/
def Unreadable (entries : Object) : Prop :=
  ∃ before i t after, entries = before ++ (.int i, t) :: after ∧
    (∀ e ∈ before, Passed isSuccess e) ∧ IsLong i

theorem toString_ne_default (i : Int) : toString i ≠ "default" := by
  intro same
  have letter : 'd' ∈ (toString i).toList := by
    rw [same]
    decide
  cases i with
  | ofNat n => cases Text.isDigit_of_mem_toString (n := n) letter
  | negSucc n =>
    have signed : toString (Int.negSucc n) = "-" ++ toString (n + 1) := rfl
    rw [signed, String.toList_append] at letter
    rcases List.mem_append.mp letter with sign | digits
    · revert sign
      decide
    · cases Text.isDigit_of_mem_toString digits

theorem display_number (i : Int) :
    (IsLong i ∧ (Scalar.int i).display = .error .longInteger) ∨
      (¬ IsLong i ∧ (Scalar.int i).display = .ok (toString i)) := by
  have read : Text.ofInteger? i =
      if Nat.pow 10 Text.mostDigits ≤ i.natAbs then none else some (toString i) := rfl
  unfold IsLong
  -- The power is too large to be looked into.
  generalize Nat.pow 10 Text.mostDigits = bound at *
  unfold Scalar.display Scalar.quoted
  simp only [read]
  by_cases long : bound ≤ i.natAbs
  · simp [long]
  · simp [long]

theorem display_of_long {i : Int} (long : IsLong i) :
    (Scalar.int i).display = .error .longInteger := by
  rcases display_number i with ⟨_, hidden⟩ | ⟨short, _⟩
  · exact hidden
  · exact absurd long short

theorem display_eq_default {k : Scalar} (key : IsStatusKey k) :
    k.display = .ok "default" ↔ k = .text "default" := by
  cases key with
  | text s =>
    show Except.ok s = Except.ok "default" ↔ _
    rw [Except.ok.injEq, Scalar.text.injEq]
  | number i =>
    constructor
    · intro shown
      rcases display_number i with ⟨_, hidden⟩ | ⟨_, written⟩
      · cases hidden.symm.trans shown
      · exact absurd (Except.ok.inj (written.symm.trans shown)) (toString_ne_default i)
    · nofun

theorem long_of_display {k : Scalar} {what : Malformed} (key : IsStatusKey k)
    (hidden : k.display = .error what) : ∃ i, k = .int i ∧ IsLong i := by
  cases key with
  | text s => cases hidden
  | number i =>
    rcases display_number i with ⟨long, _⟩ | ⟨_, written⟩
    · exact ⟨i, rfl, long⟩
    · cases hidden.symm.trans written

variable {entries : Object} {e : Scalar × Tree}

theorem shown?_of_display {shown : String} (found : e.1.display = .ok shown) :
    shown? e.1 = some shown := by
  rw [shown?, found]
  rfl

theorem not_success_of_passed (passed : Passed isSuccess e) :
    (shown? e.1).any isSuccess = false := by
  obtain ⟨shown, found, other⟩ := passed
  rw [shown?_of_display found]
  exact other

theorem has_default : Object.has entries "default" =
    (entries.find? fun e => e.1 == .text "default").isSome := by
  have same : (fun e : Scalar × Tree => e.1.identity == (Scalar.text "default").identity) =
      fun e => e.1 == .text "default" := by
    funext e
    rw [Bool.eq_iff_iff, beq_iff_eq, beq_iff_eq]
    exact ⟨Scalar.eq_text_of_identity, fun h => h ▸ rfl⟩
  rw [Object.has, Object.get?, same, Option.isSome_map]

structure Reaches (entries : Object) (e : Scalar × Tree) (word : String) : Prop where
  shown : e.1.display = .ok word
  status : statusOf entries = .ok (some word)
  entry : findShown (· == word) entries = .ok (some (word, e.2))

theorem statusOf_of_unreadable (unreadable : Unreadable entries) :
    statusOf entries = .error .longInteger := by
  obtain ⟨before, i, t, after, rfl, passed, long⟩ := unreadable
  rw [statusOf, findShown_stuck (e := (.int i, t)) passed (display_of_long long)]
  rfl

theorem statusOf_of_passed (all : ∀ e ∈ entries, Passed isSuccess e) : statusOf entries =
    .ok ((entries.find? fun e => e.1 == .text "default").map fun _ => "default") := by
  have status : statusOf entries =
      .ok (if Object.has entries "default" then some "default" else none) := by
    rw [statusOf, findShown_missed all]
    rfl
  rw [status, has_default]
  cases entries.find? fun e => e.1 == .text "default" <;> rfl

theorem chosen?_of_passed (all : ∀ e ∈ entries, Passed isSuccess e) :
    chosen? entries = entries.find? fun e => e.1 == .text "default" := by
  have none_found : entries.find? (fun e => (shown? e.1).any isSuccess) = none := by
    rw [List.find?_eq_none]
    intro e he
    simp [not_success_of_passed (all e he)]
  rw [chosen?, none_found, Option.none_or]

theorem reaches_default (keys : ∀ e ∈ entries, IsStatusKey e.1)
    (all : ∀ e ∈ entries, Passed isSuccess e)
    (found : entries.find? (fun e => e.1 == .text "default") = some e) :
    Reaches entries e "default" := by
  have status := statusOf_of_passed all
  rw [found] at status
  obtain ⟨is_default, before, after, split, others⟩ := List.find?_eq_some_iff_append.mp found
  have is_default : e.1 = .text "default" := by simpa using is_default
  have shown : e.1.display = .ok "default" := by
    rw [is_default]
    rfl
  have passed : ∀ d ∈ before, Passed (· == "default") d := by
    intro d hd
    have inside : d ∈ entries := split ▸ List.mem_append_left _ hd
    obtain ⟨word, found, _⟩ := all d inside
    refine ⟨word, found, ?_⟩
    rw [beq_eq_false_iff_ne]
    rintro rfl
    have same := (display_eq_default (keys d inside)).mp found
    simpa [same] using others d hd
  refine ⟨shown, status, ?_⟩
  rw [split, findShown_hit passed shown (by simp)]

section Success

variable {before after : Object} {status : String} (passed : ∀ d ∈ before, Passed isSuccess d)
  (shown : e.1.display = .ok status) (success : isSuccess status = true)
include passed shown success

theorem chosen?_of_success : chosen? (before ++ e :: after) = some e := by
  have found : (before ++ e :: after).find? (fun d => (shown? d.1).any isSuccess) = some e := by
    rw [List.find?_eq_some_iff_append]
    refine ⟨?_, before, after, rfl, ?_⟩
    · rw [shown?_of_display shown]
      exact success
    · intro d hd
      simp [not_success_of_passed (passed d hd)]
  rw [chosen?, found, Option.some_or]

theorem reaches_success : Reaches (before ++ e :: after) e status := by
  -- A key that is no success is not shown like one that is.
  have others : ∀ d ∈ before, Passed (· == status) d := by
    intro d hd
    obtain ⟨word, found, failure⟩ := passed d hd
    refine ⟨word, found, ?_⟩
    rw [beq_eq_false_iff_ne]
    rintro rfl
    rw [success] at failure
    cases failure
  refine ⟨shown, ?_, ?_⟩
  · rw [statusOf, findShown_hit passed shown success]
    rfl
  · exact findShown_hit others shown (by simp)

end Success

theorem chosen_cases (keys : ∀ e ∈ entries, IsStatusKey e.1) (readable : ¬ Unreadable entries) :
    (chosen? entries = none ∧ statusOf entries = .ok none) ∨
      ∃ e status, chosen? entries = some e ∧ Reaches entries e status := by
  rcases search_cases isSuccess entries with all | ⟨before, e, after, split, passed, ending⟩
  · have chosen := chosen?_of_passed all
    cases found : entries.find? fun e => e.1 == .text "default" with
    | none =>
      have status := statusOf_of_passed all
      rw [found] at chosen status
      exact .inl ⟨chosen, status⟩
    | some e => exact .inr ⟨e, "default", chosen.trans found, reaches_default keys all found⟩
  · subst split
    rcases ending with ⟨status, shown, success⟩ | ⟨what, hidden⟩
    · exact .inr ⟨e, status, chosen?_of_success passed shown success,
        reaches_success passed shown success⟩
    · have key := keys e (List.mem_append_right before List.mem_cons_self)
      obtain ⟨i, number, long⟩ := long_of_display key hidden
      refine absurd ⟨before, i, e.2, after, ?_, passed, long⟩ readable
      rw [← number]

/-! ### What is read from the response -/

variable {s : Site}

section

variable [Machine]

def payloadIn (s : Site) (content : Tree) : Except Failure Payload := do
  let schema ← Payload.ofContent content
  if schema.isNull then .ok Payload.absent else s.named schema false

def linksIn (s : Site) : Tree → Except Failure (List Link)
  | .object declared _ => do
    let links ← declared.mapM fun (name, t) => do
      match ← s.resolve t with
      | .object o _ => (Link.ofObject name o).map some
      | _ => .ok none
    .ok (links.filterMap id)
  | _ => .ok []

theorem result_eq :
    s.result = s.response >>= fun r => s.payloadIn (Object.field r "content") := rfl

theorem links_eq : s.links = s.response >>= fun r => s.linksIn (Object.field r "links") := by
  refine Except.bind_congr rfl fun r _ => ?_
  cases Object.field r "links" <;> rfl

def entriesAt (s : Site) : Option (Scalar × Tree) → Except Failure Object
  | none => .ok []
  | some e => (s.resolve e.2).map Tree.entriesOrNone

section Outcome

variable (declared : s.responses = .ok (some entries))
include declared

theorem status_eq : s.status = liftM (statusOf entries) := by
  rw [status, declared]
  rfl

theorem response_of_error {what : Malformed} (failed : statusOf entries = .error what) :
    s.response = .error (.malformed what) := by
  rw [response, declared]
  simp only [bind, Except.bind, Option.getD_some, failed]
  rfl

theorem response_of_none (nothing : statusOf entries = .ok none) : s.response = .ok [] := by
  rw [response, declared]
  simp only [bind, Except.bind, Option.getD_some, nothing]
  rfl

theorem response_of_reaches {word : String} (reaches : Reaches entries e word) :
    s.response = s.entriesAt (some e) := by
  rw [response, declared, entriesAt]
  simp only [bind, Except.bind, Option.getD_some, reaches.status]
  simp only [liftM, monadLift, MonadLift.monadLift, Except.mapError, reaches.entry]
  cases s.resolve e.2 <;> rfl

end Outcome

/-- The status and the response of an operation are those of one entry: the first one whose key is
shown as a status of 2xx, or else the default one. Without such an entry there is no status, and the
response is empty as it is where the entry stands for no object. Keys that are integers with too
many digits are not shown, so up to the chosen entry there must be none. -/
theorem status_and_response_agree (s : Site) (entries : Object)
    (declared : s.responses = .ok (some entries)) (keys : ∀ e ∈ entries, IsStatusKey e.1) :
    (∀ status, isSuccess status = true ↔ IsSuccess status) ∧
    (¬ Unreadable entries →
      s.status = .ok ((chosen? entries).bind fun e => shown? e.1) ∧
      s.response = s.entriesAt (chosen? entries)) ∧
    (Unreadable entries →
      s.status = .error (.malformed .longInteger) ∧
      s.response = .error (.malformed .longInteger)) ∧
    s.result = (s.response >>= fun r => s.payloadIn (Object.field r "content")) ∧
    s.links = (s.response >>= fun r => s.linksIn (Object.field r "links")) := by
  refine ⟨isSuccess_iff, ?_, ?_, result_eq, links_eq⟩
  · intro readable
    rw [status_eq declared]
    rcases chosen_cases keys readable with ⟨nothing, status⟩ | ⟨e, word, chosen, reaches⟩
    · rw [nothing, status]
      exact ⟨rfl, response_of_none declared status⟩
    · rw [chosen, reaches.status, Option.bind_some, shown?_of_display reaches.shown]
      exact ⟨rfl, response_of_reaches declared reaches⟩
  · intro unreadable
    have failed := statusOf_of_unreadable unreadable
    rw [status_eq declared, failed]
    exact ⟨rfl, response_of_error declared failed⟩

def office (shared answers : Object) : Site where
  document := [
    (.text "paths", .record [("/parcels", .record [("get", .record [
      ("responses", .object answers)])])]),
    (.text "components", .record [("responses", .object shared)])]
  path := .text "/parcels"
  method := .text "get"

theorem responses_office (shared answers : Object) :
    (office shared answers).responses = .ok (some answers) := by
  have item : (office shared answers).item =
      .ok [(.text "get", .record [("responses", .object answers)])] := item_of_plain rfl rfl rfl
  have endpoint : (office shared answers).endpoint = .ok [(.text "responses", .object answers)] :=
    endpoint_of_plain item rfl rfl
  rw [responses, endpoint]
  rfl

end

def parcel : Object := [(.text "description", .text "A parcel")]

def answers : Object := [
  (.text "404", .record []),
  (.int 200, .record [("$ref", .text "#/components/responses/Parcel")]),
  (.text "200", .record [("description", .text "Nothing")]),
  (.text "default", .record [])]

theorem short_of_le {i : Int} (few : i.natAbs ≤ Text.mostDigits) : ¬ IsLong i := by
  have small (n : Nat) : n < Nat.pow 10 n := Nat.lt_pow_self (by decide)
  intro long
  exact absurd (Nat.le_trans long few) (Nat.not_le.mpr (small Text.mostDigits))

theorem office_answers : (office [(.text "Parcel", .object parcel)] answers).responses =
      .ok (some answers) ∧ (∀ e ∈ answers, IsStatusKey e.1) ∧ ¬ Unreadable answers ∧
    (office [(.text "Parcel", .object parcel)] answers).status = .ok (some "200") ∧
    (office [(.text "Parcel", .object parcel)] answers).response = .ok parcel := by
  have declared := responses_office [(.text "Parcel", .object parcel)] answers
  have keys : ∀ e ∈ answers, IsStatusKey e.1 := by
    simp [answers, IsStatusKey.text, IsStatusKey.number]
  have readable : ¬ Unreadable answers := by
    rintro ⟨before, i, t, after, split, _, long⟩
    have inside : (Scalar.int i, t) ∈ answers := split ▸ List.mem_append_right before (.head _)
    have two_hundred : i = 200 := by
      simp [answers] at inside
      exact inside.1
    subst two_hundred
    exact short_of_le (by decide) long
  have shown : shown? (.int 200) = some "200" := by decide +kernel
  have failure : (shown? (.text "404")).any isSuccess = false := by decide
  have success : (some "200").any isSuccess = true := by decide
  have chosen : chosen? answers =
      some (.int 200, .record [("$ref", .text "#/components/responses/Parcel")]) := by
    simp [chosen?, answers, failure, shown, success]
  have resolved : (office [(.text "Parcel", .object parcel)] answers).resolve
      (.record [("$ref", .text "#/components/responses/Parcel")]) = .ok (.object parcel) := by
    show Reference.follow _ [] _ = _
    rw [Reference.follow_of_text (r := "#/components/responses/Parcel") rfl]
    show Reference.follow _ _ (.object parcel) = _
    rw [Reference.follow_of_plain rfl]
  obtain ⟨status, response⟩ :=
    (status_and_response_agree _ answers declared keys).2.1 readable
  rw [chosen] at status response
  rw [status, response]
  refine ⟨declared, keys, readable, ?_, ?_⟩
  · rw [Option.bind_some, shown]
  · rw [entriesAt, resolved]
    rfl

def hoard : Object := [
  (.int (Int.ofNat (Nat.pow (Nat.pow 16 36) 100)), .record [("description", .text "Far too many")]),
  (.text "200", .record [("description", .text "A parcel")])]

theorem office_hoard : (office [] hoard).responses = .ok (some hoard) ∧
    (∀ e ∈ hoard, IsStatusKey e.1) ∧
    chosen? hoard = some (.text "200", .record [("description", .text "A parcel")]) ∧
    shown? (.text "200") = some "200" ∧
    (office [] hoard).status = .error (.malformed .longInteger) ∧
    (office [] hoard).response = .error (.malformed .longInteger) := by
  have declared := responses_office [] hoard
  have long : IsLong (Int.ofNat (Nat.pow (Nat.pow 16 36) 100)) := by
    have powers (k : Nat) : Nat.pow 10 (43 * k) ≤ Nat.pow (Nat.pow 16 36) k := by
      simp only [Nat.pow_eq]
      rw [Nat.pow_mul]
      exact Nat.pow_le_pow_left (by decide) k
    have digits : Text.mostDigits = 43 * 100 := rfl
    unfold IsLong
    rewrite [digits]
    exact powers 100
  have unreadable : Unreadable hoard := ⟨[], _, _, _, rfl, nofun, long⟩
  have keys : ∀ e ∈ hoard, IsStatusKey e.1 := by
    simp only [hoard, List.forall_mem_cons]
    exact ⟨.number _, .text _, nofun⟩
  have hidden :
      (shown? (.int (Int.ofNat (Nat.pow (Nat.pow 16 36) 100)))).any isSuccess = false := by
    rw [shown?, display_of_long long]
    rfl
  have success : (shown? (.text "200")).any isSuccess = true := by decide
  have chosen : chosen? hoard =
      some (.text "200", .record [("description", .text "A parcel")]) := by
    rw [chosen?, hoard, List.find?_cons, hidden, List.find?_cons, success]
    rfl
  have failed := statusOf_of_unreadable unreadable
  rw [status_eq declared, failed]
  exact ⟨declared, keys, chosen, rfl, rfl, response_of_error declared failed⟩

end ApiOutline.Site
