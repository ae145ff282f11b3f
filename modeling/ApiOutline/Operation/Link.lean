import ApiOutline.Operation.Response
import ApiOutline.Tree.Field

/-!
Links from the chosen response of an operation to other operations.
-/
namespace ApiOutline

structure Link where
  name : String
  operationId : Option String
  operationReference : Option String
  description : Option String
  parameters : Object
  requestBody : Tree

namespace Link

variable [Machine]

def ofObject (key : Scalar) (o : Object) : Except Failure Link :=
  let name : Tree := .scalar key
  let declared := Object.field o "parameters"
  let parameters : Tree := if declared.isVoid then .object [] else declared
  let faults := FieldFault.ofText "name" name
    ++ FieldFault.ofOptionalText "operation_id" (Object.field o "operationId")
    ++ FieldFault.ofOptionalText "operation_ref" (Object.field o "operationRef")
    ++ FieldFault.ofOptionalText "description" (Object.field o "description")
    ++ FieldFault.ofObject "parameters" parameters
  if faults.isEmpty then
    .ok { name := name.fieldText?.getD ""
          operationId := (Object.field o "operationId").fieldText?
          operationReference := (Object.field o "operationRef").fieldText?
          description := (Object.field o "description").fieldText?
          parameters := parameters.entriesOrNone.fieldEntries
          requestBody := Object.field o "requestBody" }
  else .error (.invalid ⟨"EndpointLink", faults⟩)

def summary (l : Link) : Except Malformed Tree := do
  let parameters ← (Tree.object l.parameters).portable
  let requestBody ← l.requestBody.portable
  .ok (.record [("name", .text l.name), ("operation_id", .textOrNull l.operationId),
    ("operation_ref", .textOrNull l.operationReference), ("description", .textOrNull l.description),
    ("parameters", parameters), ("request_body", requestBody)])

end Link

/-- The links of an operation. What does not stand for an object is left out. -/
def Site.links [Machine] (s : Site) : Except Failure (List Link) := do
  let response ← s.response
  match Object.field response "links" with
  | .object declared _ =>
    let links ← declared.mapM fun (name, t) => do
      match ← s.resolve t with
      | .object o _ => (Link.ofObject name o).map some
      | _ => .ok none
    .ok (links.filterMap id)
  | _ => .ok []

end ApiOutline
