import Mathlib.Algebra.Group.Nat.Defs
import ApiOutline.Proofs.Outline.Failures
import ApiOutline.Proofs.Outline.Protocols
import ApiOutline.Proofs.Security.Strictness

/-! Strict runs and others, over the same document. Up to the security schemes they do the same, so
they differ only if a scheme is refused. A scheme that is refused is one that the other run leaves
out with a warning. -/
namespace ApiOutline

open Logged (Within within_lift within_pure)
open ApiOutline.Security (Refused FirstRefused Unreadable Compared)

def Options.withStrict (options : Options) (strict : Bool) : Options := { options with strict }

def Outline.withOptions (o : Outline) (options : Options) : Outline := { o with options }

namespace Outline

variable {document declared : Object} {options : Options} {p : Progress}

theorem isSkipped_skipped (shown description : String) :
    (Security.skipped shown description).isSkipped = true := by
  have whole : s!"Security scheme '{shown}' uses an unsupported {description}; skipping it" =
      s!"Security scheme '{shown}' uses an unsupported {description}" ++ Note.skippedWords := rfl
  rw [Security.skipped, whole]
  exact Note.warns_append _ _

theorem find?_skipped {notes rest : List Note} {shown description : String}
    (quiet : ∀ n ∈ notes, n.TellsOfNoScheme) :
    (notes ++ Security.skipped shown description :: rest).find? Note.isSkipped =
      some (Security.skipped shown description) := by
  have earlier : notes.find? Note.isSkipped = none := by
    apply List.find?_eq_none.mpr
    intro n hn
    exact Bool.eq_false_iff.mp (quiet n hn)
  rw [List.find?_append, earlier, Option.none_or,
    List.find?_cons_of_pos (isSkipped_skipped shown description)]

section

variable [Machine]

def read (document : Object) (options : Options) : Logged (Progress × Object) := do
  let p ← visit Catalog.assign document options
  let declared ← Logged.ofExcept (declaredSchemes document)
  pure (p, declared)

def built (options : Options) (p : Progress) (schemes : List (String × Security.Scheme)) :
    Outline :=
  ⟨p.catalog, if options.addSubOperations then nest p.operations else p.operations, schemes,
    options⟩

def lastNote (o : Outline) : Note :=
  let counts := (o.operations.length, o.catalog.definitions.length)
  ⟨.info, s!"Preprocessed {counts.1} operations into {counts.2} data definitions"⟩

def finish (options : Options) (p : Progress) (declared : Object) : Logged Outline := do
  let schemes ← Security.normalize options.strict declared
  ⟨[lastNote (built options p schemes)], .ok (built options p schemes)⟩

theorem ofDocument_eq (document : Object) (options : Options) :
    ofDocument document options =
      (read document options >>= fun found => finish options found.1 found.2) := by
  unfold read
  simp only [bind_assoc, pure_bind]
  rfl

theorem read_withStrict (document : Object) (options : Options) (strict : Bool) :
    read document (options.withStrict strict) = read document options := rfl

theorem within_read (document : Object) (options : Options) :
    (read document options).Within Note.TellsOfNoScheme := by
  refine (within_visit document options).bind fun p _ => ?_
  exact (within_lift (blames_declaredSchemes document)).bind fun declared _ => within_pure _

theorem finish_of_error {strict : Bool} {failure : Failure}
    (failed : (Security.normalize strict declared).result = .error failure) :
    finish (options.withStrict strict) p declared =
      ⟨(Security.normalize strict declared).notes, .error failure⟩ :=
  Logged.bind_of_error failed

theorem finish_of_ok {strict : Bool} {schemes : List (String × Security.Scheme)}
    (normalized : (Security.normalize strict declared).result = .ok schemes) :
    finish (options.withStrict strict) p declared =
      ⟨(Security.normalize strict declared).notes ++
          [lastNote (built (options.withStrict strict) p schemes)],
        .ok (built (options.withStrict strict) p schemes)⟩ :=
  Logged.bind_of_ok normalized

theorem finish_extends (options : Options) (strict : Bool) (p : Progress) (declared : Object) :
    ∃ last, (finish (options.withStrict strict) p declared).notes =
      (Security.normalize strict declared).notes ++ last := by
  cases normalized : (Security.normalize strict declared).result with
  | error failure => exact ⟨[], by rw [finish_of_error normalized, List.append_nil]⟩
  | ok schemes => exact ⟨_, by rw [finish_of_ok normalized]⟩

theorem texts_of_declared (texts : ∀ written, writtenSchemes document = .ok written →
      ∀ e ∈ written, ∃ key, e.1 = .text key) (declares : declaredSchemes document = .ok declared) :
    ∀ e ∈ declared, ∃ key, e.1 = .text key := by
  obtain ⟨components, found, declares⟩ := Except.bind_eq_ok.mp declares
  obtain ⟨schemes, inner, declares⟩ := Except.bind_eq_ok.mp declares
  have written : writtenSchemes document = .ok schemes := by
    rw [writtenSchemes, found]
    exact inner
  intro e he
  obtain ⟨entry, member, resolved⟩ := Except.exists_of_mem_mapM declares he
  obtain ⟨t, _, same⟩ := Except.bind_eq_ok.mp resolved
  cases same
  exact texts schemes written entry member

/-! ### Two runs -/

/-- A run whose first warning about a scheme that is left out is about the given one, the first one
of its document that is unsupported. It can only fail at a later scheme, which no run can pass. -/
structure SkipsFirst (document : Object) (run : Logged Outline) (shown description : String) :
    Prop where
  first : ∃ declared past definition loop later, declaredSchemes document = .ok declared ∧
    FirstRefused declared past (.text shown, .object definition loop) later shown description ∧
    ((∃ o, run.result = .ok o) ∨
      ∃ f ∈ later, ∃ what, Unreadable f what ∧ run.result = .error (.malformed what))
  warned : run.notes.find? Note.isSkipped = some (Security.skipped shown description)

/-- How a strict run and another one over the same document differ. -/
inductive Differ (document : Object) (strict lenient : Logged Outline) (options : Options) :
    Prop where
  | nowhere : strict.notes = lenient.notes →
      strict.result = lenient.result.map (·.withOptions options) →
      (∀ n ∈ lenient.notes, n.isSkipped = false) →
      (∀ shown description, lenient.result ≠ .error (.unsupportedScheme shown description)) →
      Differ document strict lenient options
  | atScheme {shown description : String} :
      strict.result = .error (.unsupportedScheme shown description) →
      SkipsFirst document lenient shown description → Differ document strict lenient options

section Read

variable (found : (read document options).result = .ok (p, declared))
  (texts : ∀ e ∈ declared, ∃ key, e.1 = .text key)

include found

theorem ofDocument_of_read (strict : Bool) : ofDocument document (options.withStrict strict) =
    ⟨(read document options).notes ++ (finish (options.withStrict strict) p declared).notes,
      (finish (options.withStrict strict) p declared).result⟩ := by
  rw [ofDocument_eq, read_withStrict, Logged.bind_of_ok found]

include texts

theorem differ_of_alike
    (same : Security.normalize true declared = Security.normalize false declared)
    (silent : (Security.normalize false declared).notes = []) :
    Differ document (ofDocument document (options.withStrict true))
      (ofDocument document (options.withStrict false)) (options.withStrict true) := by
  have quiet := (within_read document options).notes
  rw [ofDocument_of_read found, ofDocument_of_read found]
  cases normalized : (Security.normalize false declared).result with
  | error failure =>
    rw [finish_of_error normalized, finish_of_error (same ▸ normalized), same, silent]
    refine .nowhere rfl rfl ?_ ?_
    · rw [List.append_nil]
      exact quiet
    · rintro shown description ⟨⟩
      obtain ⟨_, _, what, blamed, _⟩ := Security.unreadable_of_foldlM texts normalized
      cases blamed
  | ok schemes =>
    rw [finish_of_ok normalized, finish_of_ok (same ▸ normalized), same, silent]
    refine .nowhere rfl rfl ?_ nofun
    intro n hn
    rcases List.mem_append.mp hn with earlier | last
    · exact quiet n earlier
    · rw [List.mem_singleton.mp last]
      exact Note.tellsOfNoScheme_of_level (by simp [lastNote])

theorem skipsFirst_of_apart (declares : declaredSchemes document = .ok declared)
    {past later : Object} {e : Scalar × Tree} {shown description : String}
    {before : List (String × Security.Scheme)}
    (first : FirstRefused declared past e later shown description)
    (run : Security.normalize false declared =
      ⟨Security.skipped shown description :: (later.foldlM (Security.addEntry false) before).notes,
        (later.foldlM (Security.addEntry false) before).result⟩) :
    SkipsFirst document (ofDocument document (options.withStrict false)) shown description := by
  have inside (f : Scalar × Tree) (hf : f ∈ e :: later) : ∃ key, f.1 = .text key := by
    apply texts
    rw [first.split]
    exact List.mem_append_right past hf
  -- the warning shows the key, and the theorem names the entry by it: for a text they are the same
  obtain ⟨key, is_text⟩ := inside e List.mem_cons_self
  obtain ⟨o, loop, rfl⟩ := first.refused.eq_of_text is_text
  rw [ofDocument_of_read found]
  constructor
  · refine ⟨declared, past, o, loop, later, declares, first, ?_⟩
    cases rest : (later.foldlM (Security.addEntry false) before).result with
    | error failure =>
      have later_texts (f : Scalar × Tree) (hf : f ∈ later) := inside f (List.mem_cons_of_mem _ hf)
      obtain ⟨f, hf, what, rfl, unreadable⟩ := Security.unreadable_of_foldlM later_texts rest
      rw [finish_of_error (by rw [run, rest])]
      exact .inr ⟨f, hf, what, unreadable, rfl⟩
    | ok schemes =>
      rw [finish_of_ok (by rw [run, rest])]
      exact .inl ⟨_, rfl⟩
  · obtain ⟨last, notes⟩ := finish_extends options false p declared
    rw [notes, run]
    exact find?_skipped (within_read document options).notes

theorem differ_of_read (declares : declaredSchemes document = .ok declared) :
    Differ document (ofDocument document (options.withStrict true))
      (ofDocument document (options.withStrict false)) (options.withStrict true) := by
  cases Security.compared [] declared with
  | alike same silent => exact differ_of_alike found texts same silent
  | apart before first strict lenient =>
    rw [← Security.normalize_eq] at strict lenient
    refine .atScheme ?_ (skipsFirst_of_apart found texts declares first lenient)
    rw [ofDocument_of_read found, finish_of_error (by rw [strict])]

end Read

theorem differ (options : Options) (texts : ∀ written, writtenSchemes document = .ok written →
      ∀ e ∈ written, ∃ key, e.1 = .text key) :
    Differ document (ofDocument document (options.withStrict true))
      (ofDocument document (options.withStrict false)) (options.withStrict true) := by
  cases found : (read document options).result with
  | error failure =>
    -- what fails before the schemes is the document's fault, so it refuses no scheme
    have within := within_read document options
    rw [ofDocument_eq, ofDocument_eq, read_withStrict, read_withStrict,
      Logged.bind_of_error found, Logged.bind_of_error found]
    refine .nowhere rfl rfl within.notes ?_
    rintro shown description ⟨⟩
    cases within.failure _ found
  | ok parts =>
    obtain ⟨p, declared⟩ := parts
    obtain ⟨_, visited, rest⟩ := Logged.bind_eq_ok.mp found
    obtain ⟨_, declares, same⟩ := Logged.bind_eq_ok.mp rest
    cases same
    exact differ_of_read found (texts_of_declared texts declares) declares

/-- A strict run refuses a scheme exactly if the other run warns about one that it leaves out. The
first warning is about the scheme that is refused, which is the first one that is unsupported. The
other run then succeeds, unless a later scheme has a type or an authentication scheme without a
text. In all other cases the two runs end in the same way. -/
theorem strict_refuses_first_skipped (document : Object) (options : Options)
    (texts : ∀ written, writtenSchemes document = .ok written →
      ∀ e ∈ written, ∃ key, e.1 = .text key) :
    let strict := ofDocument document (options.withStrict true)
    let lenient := ofDocument document (options.withStrict false)
    ((∃ shown description, strict.result = .error (.unsupportedScheme shown description)) ↔
      ∃ n ∈ lenient.notes, n.isSkipped = true) ∧
    (∀ shown description, strict.result = .error (.unsupportedScheme shown description) →
      SkipsFirst document lenient shown description) ∧
    ((∀ n ∈ lenient.notes, n.isSkipped = false) → strict.notes = lenient.notes ∧
      strict.result = lenient.result.map (·.withOptions (options.withStrict true))) := by
  intro strict lenient
  cases differ options texts with
  | nowhere notes result quiet other =>
    have accepted (shown description : String) :
        strict.result ≠ .error (.unsupportedScheme shown description) := by
      intro refused
      rw [result] at refused
      cases found : lenient.result with
      | error failure =>
        rw [found] at refused
        cases refused
        exact other shown description found
      | ok o =>
        rw [found] at refused
        cases refused
    refine ⟨⟨?_, ?_⟩, ?_, ?_⟩
    · rintro ⟨shown, description, refused⟩
      exact absurd refused (accepted shown description)
    · rintro ⟨n, hn, skipped⟩
      rw [quiet n hn] at skipped
      cases skipped
    · intro shown description refused
      exact absurd refused (accepted shown description)
    · intro _
      exact ⟨notes, result⟩
  | @atScheme shown description refused skips =>
    have warning := List.mem_of_find?_eq_some skips.warned
    refine ⟨⟨?_, ?_⟩, ?_, ?_⟩
    · rintro _
      exact ⟨_, warning, isSkipped_skipped shown description⟩
    · rintro _
      exact ⟨shown, description, refused⟩
    · intro shown' description' refused'
      cases refused.symm.trans refused'
      exact skips
    · intro quiet
      have skipped := quiet _ warning
      rw [isSkipped_skipped] at skipped
      cases skipped

end

def refuses (name : String) : Failure → Bool
  | .unsupportedScheme key _ => key == name
  | _ => false

theorem eq_of_refuses {name : String} {failure : Failure} (h : refuses name failure = true) :
    ∃ description, failure = .unsupportedScheme name description := by
  unfold refuses at h
  split at h
  · rw [eq_of_beq h]
    exact ⟨_, rfl⟩
  · cases h

theorem vault_refused : ∃ description,
    (ofDocument vault (Options.usual.withStrict true)).result =
      .error (.unsupportedScheme "badge" description) ∧
    (∀ written, writtenSchemes vault = .ok written → ∀ e ∈ written, ∃ key, e.1 = .text key) ∧
    (ofDocument vault (Options.usual.withStrict false)).notes.find? Note.isSkipped =
      some (Security.skipped "badge" description) := by
  obtain ⟨failure, failed, refused⟩ := Except.exists_error_of_any
    (x := (ofDocument vault (Options.usual.withStrict true)).result) (p := refuses "badge")
    (by decide +kernel)
  obtain ⟨description, rfl⟩ := eq_of_refuses refused
  have strictness := strict_refuses_first_skipped vault Options.usual vault_texts
  exact ⟨description, failed, vault_texts, (strictness.2.1 "badge" description failed).warned⟩

def reliquary : Object :=
  [(.text "paths", .record []),
   (.text "components", .record [("securitySchemes", .record [
      ("badge", .record [("type", .text "http"), ("scheme", .text "bearer")]),
      ("seal", .record [("type", .scalar (.int (Int.ofNat (16 ^ 4000))))])])])]

/-- The strict run refuses the first scheme, but the other run does not succeed: it warns about the
first scheme and fails at the second one. -/
theorem reliquary_fails : (∃ description,
      (ofDocument reliquary (Options.usual.withStrict true)).result =
        .error (.unsupportedScheme "badge" description)) ∧
    (∀ written, writtenSchemes reliquary = .ok written →
      ∀ e ∈ written, ∃ key, e.1 = .text key) ∧
    (∃ n ∈ (ofDocument reliquary (Options.usual.withStrict false)).notes, n.isSkipped = true) ∧
    ∀ o, (ofDocument reliquary (Options.usual.withStrict false)).result ≠ .ok o := by
  obtain ⟨failure, failed, refused⟩ := Except.exists_error_of_any
    (x := (ofDocument reliquary (Options.usual.withStrict true)).result) (p := refuses "badge")
    (by decide +kernel)
  obtain ⟨description, rfl⟩ := eq_of_refuses refused
  obtain ⟨failure', failed', _⟩ := Except.exists_error_of_any
    (x := (ofDocument reliquary (Options.usual.withStrict false)).result) (p := fun _ => true)
    (by decide +kernel)
  have warned : (ofDocument reliquary (Options.usual.withStrict false)).notes.any
      Note.isSkipped = true := by decide +kernel
  refine ⟨⟨description, failed⟩, ?_, List.any_eq_true.mp warned, ?_⟩
  · exact texts_of_keys ["badge", "seal"] (by decide +kernel)
  · intro o succeeds
    cases failed'.symm.trans succeeds

end Outline

end ApiOutline
