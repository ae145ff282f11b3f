import ApiOutline.Outline

/-!
An outline as a document. Definitions are listed once, and operations name them instead of repeating
their schemas.
-/
namespace ApiOutline

variable [Machine]

def Definition.summary (d : Definition) : Tree :=
  .record [("objectTypeName", .text d.objectName), ("inputTypeName", .text d.inputName),
    ("schema", d.schema)]

def Operation.summary (o : Operation) : Except Malformed Tree := do
  let parameters ← o.parameters.mapM Parameter.summary
  let links ← o.links.mapM Link.summary
  .ok (.record [("path", .text o.path), ("method", .text o.method.word),
    ("description", .textOrNull o.description),
    ("request", .textOrNull (o.request.map (·.objectName))),
    ("requestRequired", .bool o.requestRequired), ("response", .text o.response.objectName),
    ("parameters", .list parameters), ("links", .list links),
    ("securityProtocols", .textList o.security),
    ("subOperations", (o.subOperations.map Tree.textList).getD .null)])

def Security.Scheme.summary (s : Security.Scheme) : Tree :=
  .record [("rawName", .text s.rawName), ("kind", .text s.kind.word),
    ("parameters", .record (Entries.mapValues Tree.text s.parameters))]

namespace Outline

def operationSummaries (o : Outline) : Except Malformed (List (String × Tree)) :=
  o.operations.mapM fun (id, p) => do
    let t ← p.summary
    .ok (id, t)

def summary (o : Outline) : Except Malformed Tree := do
  let operations ← o.operationSummaries
  let options ← o.options.summary
  .ok (.record [("definitions", .list (o.catalog.definitions.map Definition.summary)),
    ("operations", .record operations),
    ("security", .record (Entries.mapValues Security.Scheme.summary o.security)),
    ("saneMap", .record (Entries.mapValues Tree.text o.catalog.names.origins)),
    ("options", options)])

end Outline

end ApiOutline
