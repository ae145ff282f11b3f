import ApiOutline.Json.Reader
import ApiOutline.Yaml.Value

/-!
Reading a document from text that is JSON or YAML. JSON comes first, because its faults are easier
to mend; text that is known to be YAML is read as YAML only. A document must be an object.
-/
namespace ApiOutline.Document

variable [Machine]

inductive Form where
  | json
  | yaml
  | unknown
  deriving DecidableEq, Repr

def requireObject : Tree → Except Failure Object
  | .object o _ => .ok o
  | t => .error (.source (.notAnObject (if t.isNull then "empty document" else t.kindWord)))

def jsonFault (text : List Char) : Json.Fault → Except Failure String
  | .unexpected what remaining => .ok (what.message text remaining)
  | .longInteger => .error (.malformed .longInteger)
  | .tooDeep => .error (.malformed .tooDeep)

/-- Reads YAML after JSON failed with the given wording, or was not tried. -/
def parseYaml (json : Option String) (text : List Char) : Except Failure Object :=
  match Yaml.read text with
  | .ok t => requireObject t
  | .error (.unprepared what) => .error (.malformed what)
  | .error e => .error (.source (.unreadable json e.message))

def parse (form : Form) (content : String) : Except Failure Object :=
  let text := content.toList
  if form = .yaml then parseYaml none text
  else
    match Json.read text with
    | .ok t => requireObject t
    | .error e => do
      let message ← jsonFault text e
      if form = .json then .error (.source (.notJson message)) else parseYaml (some message) text

end ApiOutline.Document
