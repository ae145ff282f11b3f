import ApiOutline.Definition.Catalog
import ApiOutline.Operation.Payload
import ApiOutline.Operation.Parameter
import ApiOutline.Operation.Requirement
import ApiOutline.Operation.Route
import ApiOutline.Options
import ApiOutline.Security

/-!
The outline of an API description: its operations with their payloads mapped onto shared and
uniquely named definitions, and its security schemes. Operations are visited in the order of the
document, because the first schema seen claims both its definition and its preferred name. The
sub-operations of an operation are found last, when all ids are settled.
-/
namespace ApiOutline

structure Operation extends Route where
  description : Option String
  request : Option Definition
  requestRequired : Bool
  response : Definition
  parameters : List Parameter
  links : List Link
  security : List String
  subOperations : Option (List String)

structure Outline where
  catalog : Catalog
  operations : List (String × Operation)
  security : List (String × Security.Scheme)
  options : Options

namespace Operation

variable [Machine]

def describe (endpoint : Object) : Option String :=
  match (Object.field endpoint "description").text? with
  | some "" => (Object.field endpoint "summary").text?
  | some d => some d
  | none => (Object.field endpoint "summary").text?

/-- The explicit id of an endpoint, or one that follows from its method and path. -/
def identify (s : Site) (endpoint : Object) : Except Malformed String :=
  match (Object.field endpoint "operationId").text? with
  | some id => .ok id
  | none => do
    let method ← s.method.display
    let path ← s.path.display
    .ok (Identifier.sanitize (method ++ ":" ++ path))

/-- An endpoint inside a message. What cannot be formatted leaves the places of the message open,
and the run goes on. -/
def quoted (s : Site) : String :=
  match s.method.display, s.path.display with
  | .ok method, .ok path => "\"" ++ Text.upperAscii method ++ " " ++ path ++ "\""
  | _, _ => "\"%s %s\""

def requireTexts (keys : List Scalar) : Except Failure (List String) :=
  let faults := keys.zipIdx.flatMap fun (k, i) =>
    (FieldFault.ofText "security_protocols" (.scalar k)).map fun f =>
      { f with place := f.place ++ [.position i] }
  if faults.isEmpty then .ok (keys.filterMap fun k => (Tree.scalar k).fieldText?)
  else .error (.invalid ⟨"Operation", faults⟩)

def assignRequest (assign : Assigning) (s : Site) (c : Catalog) :
    Logged ((Option Definition × Bool) × Catalog) := do
  let payload ← s.request
  let isIgnored := !payload.schema.isNull && payload.schema.object?.isNone
  if isIgnored then
    Logged.warning s!"{quoted s} has a non-object request schema; ignoring the request body"
  let schema := if isIgnored then .null else payload.schema
  let (d, c) ← assign c schema (some payload.hints)
  pure ((d, payload.required), c)

def assignResponse (assign : Assigning) (s : Site) (c : Catalog) :
    Logged (Option Definition × Catalog) := do
  let payload ← s.result
  match payload.schema with
  | .object _ _ => assign c payload.schema (some payload.hints)
  | _ =>
    Logged.warning s!"{quoted s} has no valid response schema. Ignoring operation."
    pure (none, c)

/-- The operation at a site, if it has a response, and the catalog with its payloads. -/
def ofSite (assign : Assigning) (options : Options) (s : Site) (method : Method)
    (endpoint : Object) (c : Catalog) : Logged (Option Operation × Catalog) := do
  let ((request, requestRequired), c) ← assignRequest assign s c
  let (response, c) ← assignResponse assign s c
  match response with
  | none => pure (none, c)
  | some response =>
    let keys ← if options.viewer then Logged.ofExcept s.security else pure []
    let parameters ← s.parameters
    let links ← s.links
    let id ← identify s endpoint
    let path ← s.path.display
    let security ← requireTexts keys
    pure (some { id, path, method,
                 description := describe endpoint, request, requestRequired, response, parameters,
                 links, security, subOperations := none }, c)

end Operation

namespace Outline

variable [Machine]

structure Progress where
  catalog : Catalog
  operations : List (String × Operation)

/-- Adds an operation. A later one with the same id takes the place of the earlier one. -/
def Progress.add (p : Progress) (s : Site) (o : Operation) : Logged Progress := do
  if (Entries.get? o.id p.operations).isSome then
    Logged.warning
      (s!"Operation id '{o.id}' of {Operation.quoted s} is already in use; "
        ++ "the earlier operation is replaced")
  pure { p with operations := Entries.insert o.id o p.operations }

/-- Visits one key of a path. Only a method with an object under it is an operation. -/
def visitMethod (assign : Assigning) (document : Object) (options : Options) (path : Scalar)
    (p : Progress) (entry : Scalar × Tree) : Logged Progress :=
  match Method.ofKey? entry.1, entry.2 with
  | some method, .object endpoint _ => do
    let site : Site := ⟨document, path, entry.1⟩
    let (operation, catalog) ← Operation.ofSite assign options site method endpoint p.catalog
    let p := { p with catalog }
    match operation with
    | some o => p.add site o
    | none => pure p
  | _, _ => pure p

def visitPath (assign : Assigning) (document : Object) (options : Options) (p : Progress)
    (entry : Scalar × Tree) : Logged Progress := do
  let item ← Logged.ofExcept (Reference.resolve (.object document) entry.2)
  match item with
  | .object methods _ => methods.foldlM (visitMethod assign document options entry.1) p
  | _ => pure p

def visit (assign : Assigning) (document : Object) (options : Options) : Logged Progress := do
  let paths ← Logged.ofExcept (Object.inner document "paths")
  paths.foldlM (visitPath assign document options) ⟨Catalog.empty, []⟩

def nest (operations : List (String × Operation)) : List (String × Operation) :=
  let routes := operations.map (·.2.toRoute)
  Entries.mapValues (fun o => { o with subOperations := some (o.toRoute.subOperations routes) })
    operations

def declaredSchemes (document : Object) : Except Failure Object := do
  let components ← Object.inner document "components"
  let schemes ← Object.inner components "securitySchemes"
  schemes.mapM fun (k, t) => do
    let resolved ← Reference.resolve (.object document) t
    .ok (k, resolved)

def ofDocumentWith (assign : Assigning) (document : Object) (options : Options) :
    Logged Outline := do
  let p ← visit assign document options
  let operations := if options.addSubOperations then nest p.operations else p.operations
  let declared ← Logged.ofExcept (declaredSchemes document)
  let security ← Security.normalize options.strict declared
  let counts := (operations.length, p.catalog.definitions.length)
  Logged.info s!"Preprocessed {counts.1} operations into {counts.2} data definitions"
  pure ⟨p.catalog, operations, security, options⟩

def ofDocument (document : Object) (options : Options) : Logged Outline :=
  ofDocumentWith Catalog.assign document options

end Outline

end ApiOutline
