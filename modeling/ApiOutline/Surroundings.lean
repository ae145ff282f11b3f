import ApiOutline.Entries
import ApiOutline.Failure
import ApiOutline.Path
import ApiOutline.Text.Blank

/-!
The surroundings of a run: the kind of system, environment variables, files, standard input, the
client that asks servers, and what standard output can show.
-/
namespace ApiOutline

/-- What a client comes to at an address: the status of an answer with its headers and the text of
its body, or a reason why there is no answer. It can stop at an address, and at the bytes of a body,
with a failure of its own. -/
inductive Answer where
  | response (status : Int) (headers : List (String × String)) (text : Except Malformed String)
  | failure (reason : String)
  | stop (what : Malformed)

/-- How results are drawn for people, with colour or without: tables with a title, headers and rows,
and texts of JSON. -/
structure Painter where
  table : Bool → String → List String → List (List String) → Except Malformed String
  json : Bool → String → Except Malformed String

def Painter.bare : Painter where
  table := fun _ _ headers rows =>
    .ok (String.join ((headers :: rows).map fun row => "\t".intercalate row ++ "\n"))
  json := fun _ text => .ok (text ++ "\n")

/-- What a run can read, and the characters that its standard output can write. Standard error can
write all of them, some by their numbers. The account may have a home directory. Directories that
hold one of the files need not be listed. -/
structure Surroundings where
  system : String
  environment : List (String × String)
  account : Option String := none
  directory : Path
  directories : List Path
  files : List (Path × ByteArray)
  input : String
  fetch : String → Answer
  isTerminal : Bool
  writes : Char → Bool := fun _ => true
  painter : Painter := .bare

namespace Surroundings

def value? (s : Surroundings) (name : String) : Option String := Entries.get? name s.environment

def setting? (s : Surroundings) (name : String) : Option String :=
  (s.value? name).filter (· != "")

def longestName : Nat := 255
def longestPath : Nat := 4095

/-- Whether steps from the root lead to a directory: to the working directory or a listed one, above
them, or above some file. -/
def isDirectory (s : Surroundings) (steps : List String) : Bool :=
  (s.directory :: s.directories).any (fun p => steps.isPrefixOf p.steps)
    || s.files.any fun (p, _) => steps.isPrefixOf p.steps && steps.length < p.steps.length

def places : List String → List String → List (List String)
  | _, [] => []
  | here, step :: rest =>
    let next := if step = ".." then here.dropLast else here ++ [step]
    next :: places next rest

def start (s : Surroundings) (p : Path) : List String :=
  if p.isAbsolute then [] else s.directory.steps

/-- Follows steps from a directory. Each step but the last one must lead to a directory, and no name
may be too long. -/
def follow (s : Surroundings) : List String → List String → Except Failure (Option (List String))
  | here, [] => .ok (some here)
  | here, step :: rest =>
    if !s.isDirectory here then .ok none
    else if longestName < step.utf8ByteSize then .error (.malformed .longName)
    else if step = ".." then follow s here.dropLast rest
    else follow s (here ++ [step]) rest

def file? (s : Surroundings) (p : Path) : Except Failure (Option ByteArray) :=
  if p.toText.contains (Char.ofNat 0) then .ok none
  else if longestPath < p.toText.utf8ByteSize then .error (.malformed .longName)
  else do
    match ← s.follow (s.start p) p.steps with
    | none => .ok none
    | some steps => .ok ((s.files.find? fun (q, _) => q.steps == steps).map (·.2))

def isFile (s : Surroundings) (steps : List String) : Bool :=
  s.files.any fun (p, _) => p.steps == steps

def makeSteps (s : Surroundings) : List String → List String → Except Malformed Unit
  | _, [] => .ok ()
  | here, step :: rest =>
    let next := if step = ".." then here.dropLast else here ++ [step]
    if longestName < step.utf8ByteSize then .error .longName
    else if s.isFile next then .error (if rest.isEmpty then .fileInTheWay else .pathThroughFile)
    else makeSteps s next rest

def makeDirectory (s : Surroundings) (p : Path) : Except Malformed Unit :=
  if longestPath < p.toText.utf8ByteSize then .error .longName
  else s.makeSteps (s.start p) p.steps

def text? (s : Surroundings) (p : Path) : Except Failure (Option String) := do
  match ← s.file? p with
  | none => .ok none
  | some bytes =>
    match String.fromUTF8? bytes with
    | some t => .ok (some (String.ofList (Text.unifyBreaks t.toList)))
    | none => .error (.malformed .notUtf8)

end Surroundings

end ApiOutline
