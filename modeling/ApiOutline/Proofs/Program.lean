import ApiOutline.Program
import ApiOutline.Proofs.CommandLine
import ApiOutline.Proofs.Program.Spelling
import ApiOutline.Proofs.Terminal

/-! Runs where colour is not allowed. Their results and their exit codes do not depend on how loud
they are, and a run that fails has no results, unless they have a character that standard output
cannot write. -/
namespace ApiOutline

namespace Command

variable [Machine]

def source : Command → String
  | .preprocess source _ => source
  | .definitions source => source
  | .security source _ => source

def outline (s : Surroundings) : Command → Logged Outline
  | .preprocess source flags => Program.outline s flags source
  | .definitions source => Program.outline s Configuration.Flags.absent source
  | .security source flags => Program.outline s flags source

def shown (t : Terminal) (o : Outline) : Command → Shown
  | .preprocess _ _ => Program.showOperations t o
  | .definitions _ => Program.showDefinitions t o
  | .security _ _ => Program.showSecurity t o

theorem execute_eq (s : Surroundings) (t : Terminal) (c : Command) :
    Program.execute s t c = (c.shown t ·) <$> c.outline s := by
  cases c <;> rfl

def closing (format : Format) (o : Outline) : Command → List Line
  | .preprocess _ _ => if format = .json then [] else [⟨.success, Program.counts o⟩]
  | .definitions _ => []
  | .security _ _ =>
    if o.security.isEmpty then [⟨.info, "No translatable security schemes."⟩] else []

def rows (o : Outline) : Command → List (List String)
  | .preprocess _ _ =>
    Program.operationHeaders :: o.operations.map fun e => Program.operationRow e.2
  | .definitions _ =>
    Program.definitionHeaders :: o.catalog.definitions.map (Program.definitionRow o)
  | .security _ _ => Program.schemeHeaders :: o.security.map Program.schemeRow

theorem exists_document {s : Surroundings} {c : Command} {o : Outline}
    (succeeds : (c.outline s).result = .ok o) : ∃ document options,
      (Source.load s c.source).result = .ok document ∧
        (Outline.ofDocument document options).result = .ok o := by
  have made {flags : Configuration.Flags} {source : String}
      (run : (Program.outline s flags source).result = .ok o) : ∃ document options,
        (Source.load s source).result = .ok document ∧
          (Outline.ofDocument document options).result = .ok o := by
    obtain ⟨options, _, run⟩ := Logged.bind_eq_ok.mp run
    obtain ⟨document, loaded, run⟩ := Logged.bind_eq_ok.mp run
    obtain ⟨_, _, built⟩ := Logged.bind_eq_ok.mp run
    exact ⟨document, options, loaded, built⟩
  cases c with
  | preprocess source flags => exact made succeeds
  | definitions source => exact made succeeds
  | security source flags => exact made succeeds

theorem madeOf_rows {P : Char → Prop} (alphabet : Text.IsAlphabet P) {document : Object}
    {options : Options} {o : Outline} (whole : (Tree.object document).MadeOf P)
    (succeeds : (Outline.ofDocument document options).result = .ok o) (c : Command) :
    ∀ row ∈ c.rows o, ∀ cell ∈ row, Text.MadeOf P cell := by
  have headers {row : List String}
      (ascii : row.all (·.toList.all (·.toNat < 128)) = true) :
      ∀ cell ∈ row, Text.MadeOf P cell := fun cell member =>
    alphabet.literal (List.all_eq_true.mp ascii cell member)
  cases c with
  | preprocess source flags =>
    refine List.forall_mem_cons.mpr ⟨headers (by decide), fun row member => ?_⟩
    obtain ⟨e, he, rfl⟩ := List.mem_map.mp member
    exact Program.madeOf_operationRow alphabet whole succeeds he
  | definitions source =>
    refine List.forall_mem_cons.mpr ⟨headers (by decide), fun row member => ?_⟩
    obtain ⟨d, hd, rfl⟩ := List.mem_map.mp member
    exact Program.madeOf_definitionRow alphabet whole succeeds hd
  | security source flags =>
    refine List.forall_mem_cons.mpr ⟨headers (by decide), fun row member => ?_⟩
    obtain ⟨e, he, rfl⟩ := List.mem_map.mp member
    exact Program.madeOf_schemeRow alphabet whole succeeds he

end Command

def Settings.format (settings : Settings) : Format := if settings.json then .json else .plain

namespace Program

/-! ### Runs -/

/-- What a run on a command comes to, with all lines that it has to tell. -/
structure Result where
  exitCode : Nat
  output : String
  lines : List Line
  crash : Option Failure
  trace : Option Failure

namespace Result

def ending (isQuiet : Bool) (r : Result) : Ending :=
  { exitCode := r.exitCode
    screen := .results r.output ++ .asides isQuiet r.lines
    crash := r.crash
    trace := r.trace }

def failed (s : Surroundings) (time : String) (before : List Line) (output : String)
    (f : Failure) : Result :=
  match f.message?, reportDirectory s with
  | some message, _ => ⟨f.exitCode, output, before ++ [⟨.error, message⟩], none, none⟩
  | none, .ok directory =>
    let report := directory.child ("crash-" ++ time ++ ".log")
    let line := s!"Unexpected error. Debug log: {report.toText}"
    ⟨1, output, before ++ [⟨.error, line⟩], some f, none⟩
  | none, .error what => ⟨1, output, before, none, some (.malformed what)⟩

end Result

section

variable [Machine]

def result (s : Surroundings) (time : String) (isVerbose : Bool) (format : Format) (c : Command) :
    Result :=
  let notes := Note.lines isVerbose (c.outline s).notes
  match (c.outline s).result with
  | .error f => .failed s time notes "" f
  | .ok o =>
    let shown := c.shown (.bare s format) o
    match shown.failure with
    | some f => .failed s time notes shown.screen.output f
    | none => ⟨0, shown.screen.output, notes ++ c.closing format o, none, none⟩

def lost (s : Surroundings) (f : Failure) : Failure :=
  match reportDirectory s with
  | .error what => .malformed what
  | .ok _ => f

def course (s : Surroundings) (time : String) (settings : Settings) (c : Command) : Result :=
  match Terminal.size s with
  | .error f => ⟨1, "", [], none, some (lost s f)⟩
  | .ok _ => result s time settings.verbose settings.format c

/-- The rows of a table do not break an output off if standard output can write the characters of
the document. -/
theorem not_breaks {P : Char → Prop} (alphabet : Text.IsAlphabet P) {s : Surroundings}
    (writes : ∀ ch, P ch → s.writes ch = true) {c : Command} {o : Outline}
    (whole : ∀ document, (Source.load s c.source).result = .ok document →
      (Tree.object document).MadeOf P)
    (succeeds : (c.outline s).result = .ok o) (output : String) :
    ¬ Terminal.Breaks s.writes (c.rows o) output := by
  rintro ⟨written, row, rest, split, _, ch, member, stuck⟩
  obtain ⟨document, options, loaded, built⟩ := Command.exists_document succeeds
  have inside : row ∈ c.rows o := split ▸ List.mem_append_right _ List.mem_cons_self
  have cells := Command.madeOf_rows alphabet (whole document loaded) built c row inside
  have made : Text.MadeOf P (Terminal.rowText row) :=
    (Text.MadeOf.intercalate (alphabet.literal rfl) cells).append (alphabet.literal rfl)
  have written := writes ch (made ch member)
  rw [stuck] at written
  cases written

/-! ### Volume -/

/-- What is told beside the results, in its order. -/
def asides (s : Surroundings) (time : String) (settings : Settings) (c : Command) : List Line :=
  (course s time settings c).lines

section

variable {settings settings' : Settings} (same : settings'.muted = settings.muted)
include same

end

end

end Program

end ApiOutline
