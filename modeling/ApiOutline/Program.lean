import ApiOutline.CommandLine
import ApiOutline.Source
import ApiOutline.Summary
import ApiOutline.Terminal
import ApiOutline.Version

/-!
The program: it makes the outline of a description and shows it, its definitions, or its security
schemes.
-/
namespace ApiOutline.Program

variable [Machine]

def version : String := "0.1.0"

/-- The end of a run: its exit code, what it showed, and the failure that it was not prepared for,
if there was one. Such a failure is reported, or else it leaves its trace. -/
structure Ending where
  exitCode : Nat
  screen : Screen
  crash : Option Failure := none
  trace : Option Failure := none

def outline (s : Surroundings) (flags : Configuration.Flags) (source : String) :
    Logged Outline := do
  let options ← Logged.ofExcept (Configuration.resolve s flags)
  let document ← Source.load s source
  let _ ← Logged.ofExcept (Version.check document)
  Outline.ofDocument document options

/-- The operations that use a definition, each once for its request and once for its response. -/
def uses (o : Outline) (d : Definition) : Nat :=
  (o.operations.flatMap fun (_, p) => p.request.toList ++ [p.response]).countP
    (·.objectName == d.objectName)

def definitionHeaders : List String := ["Type", "Input Type", "Derived From", "Used By"]

def definitionRow (o : Outline) (d : Definition) : List String :=
  [d.objectName, d.inputName, (Entries.get? d.objectName o.catalog.names.origins).getD "-",
    toString (uses o d)]

def schemeHeaders : List String := ["Name", "Scheme", "Kind", "Parameters"]

def schemeRow (e : String × Security.Scheme) : List String :=
  [e.1, e.2.rawName, e.2.kind.word,
    ", ".intercalate (e.2.parameters.map fun (slot, name) => slot ++ "=" ++ name)]

def operationHeaders : List String :=
  ["Operation", "Method", "Path", "Request", "Response", "Sub-operations"]

def operationRow (o : Operation) : List String :=
  let nested := o.subOperations.getD []
  [o.id, Text.upperAscii o.method.word, o.path, (o.request.map (·.objectName)).getD "-",
    o.response.objectName, if nested.isEmpty then "-" else ", ".intercalate nested]

def showDefinitions (t : Terminal) (o : Outline) : Shown :=
  t.table s!"Data Definitions ({o.catalog.definitions.length})" definitionHeaders
    (o.catalog.definitions.map (definitionRow o))

def showSecurity (t : Terminal) (o : Outline) : Shown :=
  if o.security.isEmpty then .ofExcept (t.info "No translatable security schemes.")
  else t.table "Security Schemes" schemeHeaders (o.security.map schemeRow)

def counts (o : Outline) : String :=
  s!"{o.operations.length} operations, {o.catalog.definitions.length} data definitions, "
    ++ s!"{o.security.length} security schemes"

def showOperations (t : Terminal) (o : Outline) : Shown :=
  if t.format = .json then .ofExcept do t.json (← o.summary)
  else
    (t.table s!"Operations ({o.operations.length})" operationHeaders
      (o.operations.map fun e => operationRow e.2)).andThen (.ofExcept (t.success (counts o)))

def execute (s : Surroundings) (t : Terminal) (c : Command) : Logged Shown :=
  match c with
  | .preprocess source flags => showOperations t <$> outline s flags source
  | .definitions source => showDefinitions t <$> outline s Configuration.Flags.absent source
  | .security source flags => showSecurity t <$> outline s flags source

def reportDirectory (s : Surroundings) : Except Malformed Path := do
  let p := (← Configuration.keptDirectory s).child "logs"
  s.makeDirectory p
  .ok p

/-- The end of a run by a failure that it was not prepared for. Its report needs a place and a
terminal; without them the run ends with another failure. -/
def crashed (s : Surroundings) (time : String) (terminal : Except Failure Terminal)
    (before : Screen) (f : Failure) : Ending :=
  let told : Except Failure Screen := do
    let report := (← reportDirectory s).child ("crash-" ++ time ++ ".log")
    (← terminal).error s!"Unexpected error. Debug log: {report.toText}"
  match told with
  | .ok shown => { exitCode := 1, screen := before ++ shown, crash := some f }
  | .error g => { exitCode := 1, screen := before, trace := some g }

/-- The end of a run that failed. A failure that has a wording is shown, unless the wording itself
cannot be. -/
def failed (s : Surroundings) (time : String) (t : Terminal) (before : Screen) (f : Failure) :
    Ending :=
  match f.message? with
  | none => crashed s time (.ok t) before f
  | some message =>
    match t.error message with
    | .ok shown => { exitCode := f.exitCode, screen := before ++ shown }
    | .error g => crashed s time (.ok t) before g

/-- Runs a command; the notes of the run are shown before its end. A note that cannot be shown ends
the run, and so does a result. -/
def runCommand (s : Surroundings) (time : String) (settings : Settings) (t : Terminal)
    (c : Command) : Ending :=
  let run := execute s t c
  let notes := t.notes settings.verbose run.notes
  match notes.failure, run.result with
  | some f, _ => crashed s time (.ok t) notes.screen f
  | none, .error f => failed s time t notes.screen f
  | none, .ok shown =>
    match shown.failure with
    | some f => failed s time t (notes.screen ++ shown.screen) f
    | none => { exitCode := 0, screen := notes.screen ++ shown.screen }

def carryOut (s : Surroundings) (time : String) (settings : Settings) (wish : Wish) : Ending :=
  let asked := if settings.json then some Format.json
    else if settings.plain then some .plain else none
  match Terminal.ofSurroundings s asked settings.noColor settings.quiet with
  | .error f => crashed s time (Terminal.ofSurroundings s none false false) Screen.empty f
  | .ok t =>
    match wish with
    | .help => { exitCode := 0, screen := Screen.empty }
    | .misuse => { exitCode := 2, screen := Screen.empty }
    | .run c => runCommand s time settings t c

def run (s : Surroundings) (time : String) (arguments : List String) : Ending :=
  match CommandLine.parse arguments with
  | .version =>
    { exitCode := 0, screen := Screen.line (Configuration.program ++ " " ++ version) }
  | .help => { exitCode := 0, screen := Screen.empty }
  | .misuse => { exitCode := 2, screen := Screen.empty }
  | .command settings wish => carryOut s time settings wish

def Ending.traceText (e : Ending) : String := (e.trace.map (·.report ++ "\n")).getD ""

def seen (e : Ending) : Nat × Screen :=
  (e.exitCode, ⟨e.screen.output, e.screen.errors ++ e.traceText⟩)

end ApiOutline.Program
