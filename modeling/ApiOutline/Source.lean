import ApiOutline.Document
import ApiOutline.Log
import ApiOutline.Surroundings
import ApiOutline.Text.Case

/-!
Loading a document from standard input, from a server or from a file. The content type of an answer
and the ending of a file's name say which form the text has.
-/
namespace ApiOutline.Source

variable [Machine]

def isAddress (source : String) : Bool :=
  "http://".toList.isPrefixOf source.toList || "https://".toList.isPrefixOf source.toList

def formOfContentType (value : String) : Document.Form :=
  let names (word : String) : Bool := Text.hasPart word.toList value.toList
  if names "json" then .json
  else if names "yaml" || names "yml" then .yaml
  else .unknown

def formOfSuffix (suffix : String) : Document.Form :=
  match Text.lowerAscii suffix with
  | ".json" => .json
  | ".yaml" => .yaml
  | ".yml" => .yaml
  | _ => .unknown

/-- The value of a header, whose name may be in any case. The values of equal names are one. -/
def header? (name : String) (headers : List (String × String)) : Option String :=
  match (headers.filter fun (n, _) => Text.lowerAscii n == name).map (·.2) with
  | [] => none
  | values => some (", ".intercalate values)

/-- The text at an address. Only an answer with a status of 2xx has one. -/
def fetch (s : Surroundings) (address : String) : Except Failure (String × Document.Form) :=
  match s.fetch address with
  | .stop what => .error (.malformed what)
  | .failure reason => .error (.source (.unreachable address reason))
  | .response status headers text =>
    if status < 200 ∨ 299 < status then .error (.source (.refused status address))
    else do
      let text ← text
      .ok (text, formOfContentType ((header? "content-type" headers).getD ""))

def readFile (s : Surroundings) (path : String) : Except Failure (String × Document.Form) := do
  let p := Path.ofText path
  match ← s.text? p with
  | none => .error (.source (.notFound path))
  | some text => .ok (text, formOfSuffix p.suffix)

def read (s : Surroundings) (source : String) : Except Failure (String × Document.Form) :=
  if source = "-" then .ok (s.input, .unknown)
  else if isAddress source then fetch s source
  else readFile s source

def load (s : Surroundings) (source : String) : Logged Object := do
  let (content, form) ← Logged.ofExcept (read s source)
  if content.toList.all Text.isBlank then Logged.fail (.source (.blank source))
  else
    Logged.debug s!"Loaded {content.length} characters from {source}"
    Logged.ofExcept (Document.parse form content)

end ApiOutline.Source
