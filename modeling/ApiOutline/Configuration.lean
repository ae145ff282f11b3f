import ApiOutline.Options
import ApiOutline.Surroundings
import ApiOutline.Document

/-!
Where the options of a run come from. Flags of the command line count most, then environment
variables, then the file of the project, then the file of the user, then the usual values. Keys that
are passed on are collected from both files.
-/
namespace ApiOutline.Configuration

variable [Machine]

def program : String := "specgraph"

def hasBaseDirectories (system : String) : Bool :=
  system = "Linux" || "BSD".toList.isSuffixOf system.toList

/-- The home directory, without slashes at its end: the one that a variable names, or else that of
the account. A name with a tilde in front is not resolved again. -/
def home (s : Surroundings) : Except Malformed Path :=
  match s.value? "HOME" <|> s.account with
  | none => .error .homeless
  | some h =>
    match (h.toList.reverse.dropWhile (· == '/')).reverse with
    | [] => .ok (Path.ofText "/")
    | '~' :: _ => .error .homeless
    | trimmed => .ok (Path.ofText (String.ofList trimmed))

def base (s : Surroundings) (variableName : String) (usual : List String) :
    Except Malformed Path :=
  match s.setting? variableName with
  | some v => .ok (Path.ofText v)
  | none => do .ok (usual.foldl Path.child (← home s))

def directory (s : Surroundings) : Except Malformed Path := do
  if hasBaseDirectories s.system then
    .ok ((← base s "XDG_CONFIG_HOME" [".config"]).child program)
  else .ok ((← home s).child ("." ++ program))

def dataDirectory (s : Surroundings) : Except Malformed Path := do
  if hasBaseDirectories s.system then
    .ok ((← base s "XDG_DATA_HOME" [".local", "share"]).child program)
  else .ok (((← home s).child ("." ++ program)).child "logs")

def keptDirectory (s : Surroundings) : Except Malformed Path := do
  let p ← dataDirectory s
  s.makeDirectory p
  .ok p

def preferencesPath (s : Surroundings) : Except Malformed Path := do
  .ok ((← directory s).child "config.json")

def projectPath (s : Surroundings) : Path := s.directory.child (program ++ ".json")

def readJson (s : Surroundings) (label : String) (p : Path) : Except Failure (Option Tree) := do
  match ← s.text? p with
  | none => .ok none
  | some text =>
    match Json.read text.toList with
    | .ok t => .ok (some t)
    | .error e => do
      let reason ← Document.jsonFault text.toList e
      .error (.configuration (.notJson label p.toText reason))

def preferences (s : Surroundings) : Except Failure Preferences := do
  let p ← preferencesPath s
  match ← readJson s "global config" p with
  | none => .ok Preferences.usual
  | some t =>
    if t.isNull then .ok Preferences.usual
    else (Preferences.read t).mapError fun r => .configuration (.badGlobal p.toText r)

def project (s : Surroundings) : Except Failure (Option Object) := do
  let p := projectPath s
  match ← readJson s "project config" p with
  | none => .ok none
  | some (.object o) => .ok (some o)
  | some t =>
    if t.isNull then .ok none
    else .error (.configuration (.projectNotObject p.toText))

def trueWords : List String := ["1", "true", "yes", "on"]
def falseWords : List String := ["0", "false", "no", "off"]

def truth (value source : String) : Except Failure Bool :=
  let word := Text.lowerAscii (Text.trim value)
  if trueWords.contains word then .ok true
  else if falseWords.contains word then .ok false
  else .error (.configuration (.badTruth value source))

structure Flags where
  strict : Option Bool
  viewer : Option Bool
  addSubOperations : Option Bool

def Flags.absent : Flags := ⟨none, none, none⟩

def setAll (o : Object) (more : Object) : Object :=
  more.foldl (fun o e => Object.insert o e.1 e.2) o

def setField (o : Object) (f : Options.Field) : Option Bool → Object
  | none => o
  | some b => Object.insert o (.text f.name) (.bool b)

def overlayProject (o : Object) (project : Option Object) : Except Failure Object :=
  match project with
  | none => .ok o
  | some p =>
    let t := Object.field p "options"
    if t.isNull then .ok o
    else
      match Options.read t with
      | .ok r => .ok (setAll o (r.options.dump Options.Field.name r.given))
      | .error faults =>
        .error (.configuration (.badProjectOptions ⟨"PreprocessOptions", faults⟩))

def optionVariables : List (String × Options.Field) :=
  [("SPECGRAPH_STRICT", Options.strictField), ("SPECGRAPH_VIEWER", Options.viewerField),
    ("SPECGRAPH_ADD_SUB_OPERATIONS", Options.subOperationsField)]

def overlayVariable (s : Surroundings) (o : Object) (v : String × Options.Field) :
    Except Failure Object :=
  match s.setting? v.1 with
  | none => .ok o
  | some value => do
    let b ← truth value v.1
    .ok (setField o v.2 (some b))

def overlayFlags (o : Object) (f : Flags) : Object :=
  setField (setField (setField o Options.strictField f.strict) Options.viewerField f.viewer)
    Options.subOperationsField f.addSubOperations

def resolve (s : Surroundings) (flags : Flags) : Except Failure Options := do
  let preferences ← preferences s
  let project ← project s
  let o ← overlayProject preferences.options.byName project
  let o ← optionVariables.foldlM (overlayVariable s) o
  match Options.read (.object (overlayFlags o flags)) with
  | .ok r => .ok r.options
  | .error faults => .error (.invalid ⟨"PreprocessOptions", faults⟩)

end ApiOutline.Configuration
