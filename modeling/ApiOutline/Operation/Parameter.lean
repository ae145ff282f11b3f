import ApiOutline.Operation.Link

/-!
Parameters of an operation. Those of the path come first, without the ones that the operation
declares again under the same name and location.
-/
namespace ApiOutline

inductive Location where
  | query
  | header
  | path
  | cookie
  deriving DecidableEq, Repr

namespace Location

def word : Location → String
  | .query => "query"
  | .header => "header"
  | .path => "path"
  | .cookie => "cookie"

def ofTree? : Tree → Option Location
  | .scalar (.text "query") => some .query
  | .scalar (.text "header") => some .header
  | .scalar (.text "path") => some .path
  | .scalar (.text "cookie") => some .cookie
  | _ => none

end Location

structure Parameter where
  name : String
  location : Location
  required : Bool
  description : Option String
  deprecated : Bool
  schema : Option Object

namespace Parameter

/-- The identity of a field of a declaration; a missing field counts as an empty text. Lists and
objects have none. -/
def identity (o : Object) (name : String) : Except Failure Identity :=
  match Object.get? o (.text name) with
  | none => .ok (.text "")
  | some (.scalar s) => .ok s.identity
  | some _ => .error (.malformed .compoundKey)

/-- What tells declarations apart: name and location, as they are written. -/
def key (o : Object) : Except Failure (Identity × Identity) := do
  let name ← identity o "name"
  let location ← identity o "in"
  .ok (name, location)

/-- The declarations of a path that an operation does not replace, and those of the operation. -/
def merge (ofPath ofOperation : List Object) : Except Failure (List Object) := do
  let taken ← ofOperation.mapM key
  let kept ← ofPath.filterM fun o => do
    let k ← key o
    .ok !(taken.contains k)
  .ok (kept ++ ofOperation)

def locationOf (o : Object) : Option Location :=
  match Object.get? o (.text "in") with
  | none => some .query
  | some t => Location.ofTree? t

/-- The parameter that an object declares at a location. Parameters of the path are always
required. -/
def ofObject (location : Location) (o : Object) : Except Failure Parameter :=
  let name : Tree := (Object.get? o (.text "name")).getD (.text "")
  let schema := (Object.field o "schema").object?
  let faults := FieldFault.ofText "name" name
    ++ FieldFault.ofOptionalText "description" (Object.field o "description")
    ++ ((schema.map fun s => FieldFault.ofObject "schema" (.object s)).getD [])
  if faults.isEmpty then
    .ok { name := name.fieldText?.getD ""
          location
          required := location = .path || (Object.field o "required").isTrue
          description := (Object.field o "description").fieldText?
          deprecated := (Object.field o "deprecated").isTrue
          schema := schema.map Object.fieldEntries }
  else .error (.invalid ⟨"Parameter", faults⟩)

def schemaTree (p : Parameter) : Tree := (p.schema.map fun o => Tree.object o).getD .null

def summary [Machine] (p : Parameter) : Except Malformed Tree := do
  let schema ← p.schemaTree.portable
  .ok (.record [("name", .text p.name), ("location", .text p.location.word),
    ("required", .bool p.required), ("description", .textOrNull p.description),
    ("deprecated", .bool p.deprecated), ("schema", schema)])

end Parameter

namespace Site

variable [Machine]

def declarations (s : Site) : Tree → Except Failure (List Object)
  | .list items _ => do
    let resolved ← items.mapM s.resolve
    .ok (resolved.filterMap Tree.object?)
  | _ => .ok []

/-- The parameters of an operation. Declarations at an unknown location are left out. -/
def parameters (s : Site) : Except Failure (List Parameter) :=
  match Method.ofKey? s.method with
  | none => .ok []
  | some _ => do
    let item ← s.item
    let ofPath ← s.declarations (Object.field item "parameters")
    let endpoint ← s.endpoint
    let ofOperation ← s.declarations (Object.field endpoint "parameters")
    let merged ← Parameter.merge ofPath ofOperation
    let parameters ← merged.mapM fun o =>
      match Parameter.locationOf o with
      | none => .ok none
      | some l => (Parameter.ofObject l o).map some
    .ok (parameters.filterMap id)

end Site

end ApiOutline
