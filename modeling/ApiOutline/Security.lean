import ApiOutline.Identifier
import ApiOutline.Log
import ApiOutline.Text.Case
import ApiOutline.Tree.Field

/-!
Security schemes as a viewer can use them. A scheme with an API key asks for one credential, one of
basic authentication for two. Schemes of OAuth 2.0 are left out, since they have a mechanism of
their own; any other scheme is left out with a warning, or refused in a strict run.
-/
namespace ApiOutline.Security

variable [Machine]

inductive Kind where
  | oauth2
  | apiKey
  | basicAuth
  | unsupported
  deriving DecidableEq, Repr

def Kind.word : Kind → String
  | .oauth2 => "oauth2"
  | .apiKey => "api_key"
  | .basicAuth => "basic_auth"
  | .unsupported => "unsupported"

def Kind.of (o : Object) : Except Malformed Kind :=
  match (Object.field o "type").text? with
  | some "oauth2" => .ok .oauth2
  | some "apiKey" => .ok .apiKey
  | some "http" => do
    let scheme ← ((Object.get? o (.text "scheme")).getD (.text "")).display
    .ok (if Text.lowerAscii scheme == "basic" then .basicAuth else .unsupported)
  | _ => .ok .unsupported

def describe (o : Object) : Except Malformed String :=
  let type := Object.field o "type"
  if type.text? == some "http" then do
    let scheme ← (Object.field o "scheme").display
    .ok s!"HTTP authentication scheme '{scheme}'"
  else do
    let type ← type.display
    .ok s!"security scheme type '{type}'"

/-- A scheme with the names of its credentials: for each slot the name of the argument that takes
it. -/
structure Scheme where
  rawName : String
  kind : Kind
  parameters : List (String × String)
  schema : Tree
  definition : Object

def credentials (title : String) (slots : List String) : Tree :=
  .record [("type", .text "object"), ("description", .text title),
    ("properties", .record (slots.map fun s => (s, .record [("type", .text "string")])))]

def slots : Kind → List String
  | .apiKey => ["apiKey"]
  | .basicAuth => ["username", "password"]
  | _ => []

def title (key : String) : Kind → String
  | .basicAuth => s!"Basic auth credentials for the protocol '{key}'"
  | _ => s!"API key credentials for the protocol '{key}'"

def Scheme.ofKind (kind : Kind) (key : String) (definition : Object) : Scheme :=
  { rawName := key
    kind
    parameters := (slots kind).map fun s => (s, Identifier.sanitize (key ++ "_" ++ s))
    schema := credentials (title key kind) (slots kind)
    definition }

/-- The text that a scheme's key is. A key that is no text must at least be one that can be shown,
and bytes are no text for a name. -/
def requireKey (key : Scalar) : Except Failure String := do
  let _ ← key.display
  match FieldFault.ofText "raw_name" (.scalar key), key with
  | [], .text s => .ok s
  | [], _ => .error (.malformed .bytesForText)
  | faults, _ => .error (.invalid ⟨"NormalizedSecurityScheme", faults⟩)

/-- The scheme that an entry declares, if it is one that can be translated. -/
def normalizeEntry (strict : Bool) (key : Scalar) (t : Tree) : Logged (Option Scheme) :=
  match t with
  | .object o _ => do
    match ← Kind.of o with
    | .oauth2 => pure none
    | .unsupported =>
      let description ← describe o
      let shown ← key.display
      if strict then Logged.fail (.unsupportedScheme shown description)
      else
        Logged.warning s!"Security scheme '{shown}' uses an unsupported {description}; skipping it"
        pure none
    | kind =>
      let name ← requireKey key
      pure (some (Scheme.ofKind kind name o))
  | _ => pure none

/-- The schemes that can be translated, under their sanitized keys. Two keys that are sanitized to
one keep the first one's place and the last one's scheme. -/
def normalize (strict : Bool) (declared : Object) : Logged (List (String × Scheme)) :=
  declared.foldlM (fun schemes e => do
    match ← normalizeEntry strict e.1 e.2 with
    | some s => pure (Entries.insert (Identifier.sanitize s.rawName) s schemes)
    | none => pure schemes) []

end ApiOutline.Security
