import ApiOutline.Malformed

/-!
Why a run can fail. Each kind of failure names its cause; the wording and the exit code are
functions of it. A cause that is malformed is one that no run is prepared for, so it has no wording
of its own.
-/
namespace ApiOutline

inductive ReferenceFault where
  | external (reference : String)
  | missingKey (reference segment : String)
  | badPosition (reference segment : String)
  | notNavigable (reference kind : String)
  | circular (reference : String)

/-- A source that cannot be fetched, or whose text is no document. -/
inductive SourceFault where
  | notFound (path : String)
  | refused (status : Int) (address : String)
  | unreachable (address reason : String)
  | blank (source : String)
  | notJson (reason : String)
  | unreadable (json : Option String) (yaml : String)
  | notAnObject (kind : String)

inductive VersionFault where
  | swagger (version : String)
  | missing
  | unsupported (version : String)

inductive Step where
  | name (s : String)
  | position (i : Int)
  deriving DecidableEq, Repr

/-- What a value should have been: a text, bytes that encode a text, an object, a record of options,
a truth value, or a text or number that writes a truth value. -/
inductive Expected where
  | text
  | encodedText
  | object
  | record
  | truth
  | truthWord
  deriving DecidableEq, Repr

structure FieldFault where
  place : List Step
  expected : Expected
  deriving DecidableEq, Repr

/-- All the fields of a record that do not fit it, in the order of the record's fields. -/
structure Report where
  record : String
  faults : List FieldFault
  deriving DecidableEq, Repr

inductive ConfigurationFault where
  | badTruth (value source : String)
  | notJson (label path reason : String)
  | badGlobal (path : String) (report : Report)
  | projectNotObject (path : String)
  | badProjectOptions (report : Report)

inductive Failure where
  | reference (fault : ReferenceFault)
  | source (fault : SourceFault)
  | version (fault : VersionFault)
  | configuration (fault : ConfigurationFault)
  | nameless
  | unsupportedScheme (key description : String)
  | invalid (report : Report)
  | malformed (what : Malformed)

def ReferenceFault.message : ReferenceFault → String
  | .external r =>
    s!"External $ref not supported: {r}. Only internal references (#/...) are handled."
  | .missingKey r segment => s!"Cannot resolve $ref '{r}': key '{segment}' not found at path"
  | .badPosition r segment => s!"Cannot resolve $ref '{r}': invalid array index '{segment}'"
  | .notNavigable r kind => s!"Cannot resolve $ref '{r}': cannot navigate into {kind}"
  | .circular r => s!"Circular $ref chain detected at '{r}'"

def SourceFault.message : SourceFault → String
  | .notFound path => s!"Spec file not found: {path}"
  | .refused status address => s!"HTTP {status} fetching spec from {address}"
  | .unreachable address reason => s!"Failed to fetch spec from {address}: {reason}"
  | .blank source => s!"Spec source is empty: {source}"
  | .notJson reason => s!"Invalid JSON: {reason}"
  | .unreadable json yaml =>
    let reasons := (json.map fun j => s!"JSON error: {j}").toList ++ [s!"YAML error: {yaml}"]
    "Failed to parse spec as JSON or YAML\n  " ++ "\n  ".intercalate reasons
  | .notAnObject kind => s!"Spec must be a JSON/YAML object (got {kind})"

def VersionFault.message : VersionFault → String
  | .swagger version =>
    s!"Swagger {version} is not supported. Only OpenAPI 3.x documents can be preprocessed. "
      ++ "Consider converting with https://converter.swagger.io"
  | .missing => "Missing 'openapi' field. Is this an OpenAPI 3.x document?"
  | .unsupported version =>
    s!"Unsupported OpenAPI version: {version}. Only OpenAPI 3.x is supported."

def Expected.wording : Expected → String
  | .text => "Input should be a valid string"
  | .encodedText =>
    "Input should be a valid string, unable to parse raw data as a unicode string"
  | .object => "Input should be a valid dictionary"
  | .record => "Input should be an object"
  | .truth => "Input should be a valid boolean"
  | .truthWord => "Input should be a valid boolean, unable to interpret input"

def Step.wording : Step → String
  | .name s => s
  | .position i => toString i

/-- A line with the number of the faults, and two lines for each of them. -/
def Report.message (r : Report) : String :=
  let word := if r.faults.length = 1 then "error" else "errors"
  s!"{r.faults.length} validation {word} for {r.record}"
    ++ String.join (r.faults.map fun f =>
      "\n" ++ ".".intercalate (f.place.map Step.wording) ++ "\n  " ++ f.expected.wording)

def ConfigurationFault.message : ConfigurationFault → String
  | .badTruth value source => s!"Invalid boolean value '{value}' for {source}"
  | .notJson label path reason => s!"Invalid {label} at {path}: {reason}"
  | .badGlobal path report => s!"Invalid global config at {path}: {report.message}"
  | .projectNotObject path => s!"Invalid project config at {path}: expected a JSON object"
  | .badProjectOptions report => s!"Invalid options in project config: {report.message}"

def ConfigurationFault.report? : ConfigurationFault → Option Report
  | .badGlobal _ report => some report
  | .badProjectOptions report => some report
  | _ => none

namespace Failure

def message? : Failure → Option String
  | .reference f => some f.message
  | .source f => some f.message
  | .version f => some f.message
  | .configuration f => some f.message
  | .nameless => some "Cannot create data definition without name(s)."
  | .unsupportedScheme key description =>
    some (s!"Security scheme '{key}' uses an unsupported authentication scheme: "
      ++ description)
  | .invalid _ => none
  | .malformed _ => none

def report (f : Failure) : String :=
  match f with
  | .invalid r => r.message
  | .malformed m => m.wording
  | f => f.message?.getD ""

/-- Documents that cannot be read fail with 7, schemes that strict runs refuse with 8, schemas
without a name with 2, and all else with 1. -/
def exitCode : Failure → Nat
  | .reference _ => 7
  | .source _ => 7
  | .version _ => 7
  | .nameless => 2
  | .unsupportedScheme _ _ => 8
  | _ => 1

end Failure

/-- What is malformed makes a run fail. -/
instance : MonadLift (Except Malformed) (Except Failure) := ⟨Except.mapError .malformed⟩

end ApiOutline
