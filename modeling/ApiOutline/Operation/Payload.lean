import ApiOutline.Operation.Response
import ApiOutline.Definition.Hints

/-!
The JSON payloads of an operation's request and response: a schema, and what its type could be
called. The media type `application/json` wins over the first other one that mentions JSON.
-/
namespace ApiOutline

/-- A schema, null if there is no payload. Only the payload of a request can be required. -/
structure Payload where
  schema : Tree
  hints : Hints
  required : Bool

namespace Payload

def absent : Payload := ⟨.null, Hints.empty, false⟩

def firstJson : List (Scalar × Tree) → Except Failure Tree
  | [] => .ok .null
  | (.text k, v) :: rest =>
    if Text.hasPart "json".toList (Text.lowerAscii k).toList then .ok v else firstJson rest
  | (.bytes _, _) :: _ => .error (.malformed .bytesForText)
  | _ :: _ => .error (.malformed .notText)

def ofContent : Tree → Except Failure Tree
  | .object content _ => do
    let exact := Object.field content "application/json"
    let media ← if exact.isNull then firstJson content else .ok exact
    .ok (media.field "schema")
  | _ => .ok .null

end Payload

namespace Site

variable [Machine]

def named (s : Site) (schema : Tree) (required : Bool) : Except Failure Payload := do
  let fromPath ← s.pathName
  let resolved ← s.resolve schema
  let fromReference := ((Reference.of? schema).bind Tree.text?).map Reference.name
  .ok ⟨resolved, ⟨fromReference, (resolved.field "title").text?, some fromPath⟩, required⟩

def request (s : Site) : Except Failure Payload := do
  let endpoint ← s.endpoint
  let body ← s.resolve (Object.field endpoint "requestBody")
  match body with
  | .object body _ =>
    let required := (Object.field body "required").isTrue
    let schema ← Payload.ofContent (Object.field body "content")
    if schema.isNull then .ok { Payload.absent with required } else s.named schema required
  | _ => .ok Payload.absent

def result (s : Site) : Except Failure Payload := do
  let response ← s.response
  let schema ← Payload.ofContent (Object.field response "content")
  if schema.isNull then .ok Payload.absent else s.named schema false

end Site

end ApiOutline
