import ApiOutline.Proofs.Security

/-! Strict runs and others, over the same declared security schemes. Both treat every entry alike
that is not refused. The first entry that is ends the strict run, while the other one leaves a
warning about it and goes on. -/
namespace ApiOutline.Security

variable {e : Scalar × Tree} {shown description : String} {declared : Object}
  {schemes : List (String × Scheme)}

variable [Machine]

inductive Refused : Scalar × Tree → String → String → Prop where
  | unsupported {key : Scalar} {o : Object} {loop : Option Nat} {shown description : String} :
      Kind.of o = .ok .unsupported → describe o = .ok description → key.display = .ok shown →
      Refused (key, .object o loop) shown description

theorem Refused.eq_of_text {key : String} (refused : Refused e shown description)
    (is_text : e.1 = .text key) : ∃ o loop, e = (.text shown, .object o loop) := by
  obtain ⟨_, _, displayed⟩ := refused
  cases is_text
  cases displayed
  exact ⟨_, _, rfl⟩

def Accepted (e : Scalar × Tree) : Prop := ∀ shown description, ¬ Refused e shown description

theorem refused_or_accepted (e : Scalar × Tree) :
    (∃ shown description, Refused e shown description) ∨ Accepted e := by
  by_cases refused : ∃ shown description, Refused e shown description
  · exact .inl refused
  · exact .inr fun shown description h => refused ⟨shown, description, h⟩

/-- An entry that no run can pass, since its kind or what is unsupported about it has no text. -/
inductive Unreadable : Scalar × Tree → Malformed → Prop where
  | kind {key : Scalar} {o : Object} {loop : Option Nat} {what : Malformed} :
      Kind.of o = .error what → Unreadable (key, .object o loop) what
  | description {key : Scalar} {o : Object} {loop : Option Nat} {what : Malformed} :
      Kind.of o = .ok .unsupported → describe o = .error what →
      Unreadable (key, .object o loop) what

/-! ### One entry -/

section Object

variable {strict : Bool} {key : Scalar} {o : Object} {loop : Option Nat} {kind : Kind}
  {what : Malformed}

theorem normalizeEntry_of_error (of : Kind.of o = .error what) :
    normalizeEntry strict key (.object o loop) = ⟨[], .error (.malformed what)⟩ := by
  simp only [normalizeEntry, of]
  rfl

theorem normalizeEntry_of_oauth2 (of : Kind.of o = .ok .oauth2) :
    normalizeEntry strict key (.object o loop) = ⟨[], .ok none⟩ := by
  simp only [normalizeEntry, of]
  rfl

theorem normalizeEntry_of_translatable (of : Kind.of o = .ok kind)
    (translatable : kind.IsTranslatable) : normalizeEntry strict key (.object o loop) =
      ⟨[], (requireKey key).map fun name => some (Scheme.ofKind kind name o)⟩ := by
  rcases translatable with rfl | rfl
  · simp only [normalizeEntry, of]
    cases requireKey key <;> rfl
  · simp only [normalizeEntry, of]
    cases requireKey key <;> rfl

theorem normalizeEntry_of_describe_error (of : Kind.of o = .ok .unsupported)
    (described : describe o = .error what) :
    normalizeEntry strict key (.object o loop) = ⟨[], .error (.malformed what)⟩ := by
  simp only [normalizeEntry, of, described]
  rfl

theorem normalizeEntry_of_display_error {description : String} (of : Kind.of o = .ok .unsupported)
    (described : describe o = .ok description) (displayed : key.display = .error what) :
    normalizeEntry strict key (.object o loop) = ⟨[], .error (.malformed what)⟩ := by
  simp only [normalizeEntry, of, described, displayed]
  rfl

end Object

theorem normalizeEntry_of_refused (refused : Refused e shown description) :
    normalizeEntry true e.1 e.2 = ⟨[], .error (.unsupportedScheme shown description)⟩ ∧
      normalizeEntry false e.1 e.2 = ⟨[skipped shown description], .ok none⟩ := by
  obtain ⟨of, described, displayed⟩ := refused
  simp only [normalizeEntry, of, described, displayed]
  exact ⟨rfl, rfl⟩

/-- Nothing is noted about an entry that is not refused, and strictness has no part in it. Under a
text such an entry can only fail because it has no text of its own. -/
theorem normalizeEntry_of_accepted (accepted : Accepted e) :
    ∃ answer, (∀ strict, normalizeEntry strict e.1 e.2 = ⟨[], answer⟩) ∧
      ∀ key failure, e.1 = .text key → answer = .error failure →
        ∃ what, failure = .malformed what ∧ Unreadable e what := by
  obtain ⟨key, t⟩ := e
  cases t with
  | object o loop =>
    cases of : Kind.of o with
    | error what =>
      refine ⟨_, fun _ => normalizeEntry_of_error of, ?_⟩
      rintro name failure rfl ⟨⟩
      exact ⟨what, rfl, .kind of⟩
    | ok kind =>
      by_cases translatable : kind.IsTranslatable
      · refine ⟨_, fun _ => normalizeEntry_of_translatable of translatable, ?_⟩
        rintro name failure rfl failed
        cases failed
      · cases kind with
        | apiKey => exact absurd (.inl rfl) translatable
        | basicAuth => exact absurd (.inr rfl) translatable
        | oauth2 => exact ⟨_, fun _ => normalizeEntry_of_oauth2 of, nofun⟩
        | unsupported =>
          cases described : describe o with
          | error what =>
            refine ⟨_, fun _ => normalizeEntry_of_describe_error of described, ?_⟩
            rintro name failure rfl ⟨⟩
            exact ⟨what, rfl, .description of described⟩
          | ok description =>
            cases displayed : key.display with
            | error what =>
              refine ⟨_, fun _ => normalizeEntry_of_display_error of described displayed, ?_⟩
              rintro name failure rfl
              cases displayed
            | ok shown => exact absurd (.unsupported of described displayed) (accepted _ _)
  | _ => exact ⟨.ok none, fun _ => rfl, nofun⟩

/-! ### All entries -/

def addEntry (strict : Bool) (schemes : List (String × Scheme)) (e : Scalar × Tree) :
    Logged (List (String × Scheme)) := do
  match ← normalizeEntry strict e.1 e.2 with
  | some s => pure (Entries.insert (Identifier.sanitize s.rawName) s schemes)
  | none => pure schemes

theorem normalize_eq (strict : Bool) (declared : Object) :
    normalize strict declared = declared.foldlM (addEntry strict) [] := rfl

theorem addEntry_of_refused (schemes : List (String × Scheme))
    (refused : Refused e shown description) :
    addEntry true schemes e = ⟨[], .error (.unsupportedScheme shown description)⟩ ∧
      addEntry false schemes e = ⟨[skipped shown description], .ok schemes⟩ := by
  obtain ⟨strict, lenient⟩ := normalizeEntry_of_refused refused
  unfold addEntry
  rw [strict, lenient]
  exact ⟨rfl, rfl⟩

theorem addEntry_of_accepted (schemes : List (String × Scheme)) (accepted : Accepted e) :
    ∃ answer, (∀ strict, addEntry strict schemes e = ⟨[], answer⟩) ∧
      ∀ key failure, e.1 = .text key → answer = .error failure →
        ∃ what, failure = .malformed what ∧ Unreadable e what := by
  obtain ⟨found, run, failed⟩ := normalizeEntry_of_accepted accepted
  unfold addEntry
  cases found with
  | error failure =>
    refine ⟨.error failure, fun strict => by rw [run]; rfl, ?_⟩
    rintro key _ is_text ⟨⟩
    exact failed key failure is_text rfl
  | ok found =>
    cases found with
    | none => exact ⟨.ok schemes, fun strict => by rw [run]; rfl, nofun⟩
    | some s => exact ⟨.ok _, fun strict => by rw [run]; rfl, nofun⟩

/-- The first entry that a strict run refuses, with the entries before and after it. -/
structure FirstRefused (declared past : Object) (e : Scalar × Tree) (later : Object)
    (shown description : String) : Prop where
  split : declared = past ++ e :: later
  accepted : ∀ f ∈ past, Accepted f
  refused : Refused e shown description

/-- Runs over the same entries: alike and without notes, or apart from the first entry on that is
refused. -/
inductive Compared (schemes : List (String × Scheme)) (declared : Object) : Prop where
  | alike : declared.foldlM (addEntry true) schemes = declared.foldlM (addEntry false) schemes →
      (declared.foldlM (addEntry false) schemes).notes = [] → Compared schemes declared
  | apart {past : Object} {e : Scalar × Tree} {later : Object} {shown description : String}
      (before : List (String × Scheme)) : FirstRefused declared past e later shown description →
      declared.foldlM (addEntry true) schemes =
        ⟨[], .error (.unsupportedScheme shown description)⟩ →
      declared.foldlM (addEntry false) schemes =
        ⟨skipped shown description :: (later.foldlM (addEntry false) before).notes,
          (later.foldlM (addEntry false) before).result⟩ → Compared schemes declared

theorem FirstRefused.cons {past later : Object} {f : Scalar × Tree}
    (first : FirstRefused declared past f later shown description)
    (accepted : Accepted e) :
    FirstRefused (e :: declared) (e :: past) f later shown description where
  split := by rw [first.split, List.cons_append]
  accepted g hg := by
    rcases List.mem_cons.mp hg with rfl | inside
    · exact accepted
    · exact first.accepted g inside
  refused := first.refused

theorem Compared.cons {next : List (String × Scheme)}
    (accepted : Accepted e)
    (passed : ∀ strict, addEntry strict schemes e = ⟨[], .ok next⟩)
    (rest : Compared next declared) : Compared schemes (e :: declared) := by
  have step (strict : Bool) : (e :: declared).foldlM (addEntry strict) schemes =
      declared.foldlM (addEntry strict) next := by
    rw [List.foldlM_cons, passed]
    rfl
  cases rest with
  | alike same silent =>
    refine .alike ?_ ?_
    · rw [step, step, same]
    · rw [step, silent]
  | apart before first strict lenient =>
    refine .apart before (first.cons accepted) ?_ ?_
    · rw [step, strict]
    · rw [step, lenient]

theorem compared (schemes : List (String × Scheme)) (declared : Object) :
    Compared schemes declared := by
  -- an accepted entry may add a scheme, so the rest is compared from any schemes
  induction declared generalizing schemes with
  | nil => exact .alike rfl rfl
  | cons e later ih =>
    rcases refused_or_accepted e with ⟨shown, description, refused⟩ | accepted
    · obtain ⟨strict, lenient⟩ := addEntry_of_refused schemes refused
      have first : FirstRefused (e :: later) [] e later shown description :=
        ⟨rfl, by simp, refused⟩
      refine .apart schemes first ?_ ?_
      · rw [List.foldlM_cons, strict]
        rfl
      · rw [List.foldlM_cons, lenient]
        rfl
    · obtain ⟨answer, run, _⟩ := addEntry_of_accepted schemes accepted
      cases answer with
      | error failure =>
        have ended (strict : Bool) :
            (e :: later).foldlM (addEntry strict) schemes = ⟨[], .error failure⟩ := by
          rw [List.foldlM_cons, run]
          rfl
        refine .alike ?_ ?_
        · rw [ended, ended]
        · rw [ended]
      | ok next => exact (ih next).cons accepted run

/-- Where all keys are texts, a run that is not strict can only fail at an entry that no run can
pass. -/
theorem unreadable_of_foldlM {failure : Failure}
    (texts : ∀ e ∈ declared, ∃ key, e.1 = .text key)
    (run : (declared.foldlM (addEntry false) schemes).result = .error failure) :
    ∃ e ∈ declared, ∃ what, failure = .malformed what ∧ Unreadable e what := by
  obtain ⟨e, member, before, failed⟩ := Logged.exists_of_foldlM_eq_error run
  obtain ⟨key, is_text⟩ := texts e member
  refine ⟨e, member, ?_⟩
  rcases refused_or_accepted e with ⟨shown, description, refused⟩ | accepted
  · rw [(addEntry_of_refused before refused).2] at failed
    cases failed
  · obtain ⟨answer, entry, unreadable⟩ := addEntry_of_accepted before accepted
    rw [entry] at failed
    exact unreadable key failure is_text failed

end ApiOutline.Security
