import ApiOutline.Reference
import ApiOutline.Method
import ApiOutline.Identifier

/-!
Where an operation stands in a document: under a path, and there under a method. Both may be
references. What is not an object counts as an empty one.
-/
namespace ApiOutline

/-- The object under a key of an object. What is void counts as empty, and anything else that is no
object is malformed. -/
def Object.inner (o : Object) (name : String) : Except Failure Object :=
  let t := Object.field o name
  match t with
  | .object inner _ => .ok inner
  | t => if t.isVoid then .ok [] else .error (.malformed .notAnObject)

structure Site where
  document : Object
  path : Scalar
  method : Scalar

namespace Site

variable [Machine]

def root (s : Site) : Tree := .object s.document

def resolve (s : Site) (t : Tree) : Except Failure Tree := Reference.resolve s.root t

def item (s : Site) : Except Failure Object := do
  let paths ← Object.inner s.document "paths"
  let t ← s.resolve ((Object.get? paths s.path).getD .null)
  .ok t.entriesOrNone

def endpoint (s : Site) : Except Failure Object := do
  let item ← s.item
  let t ← s.resolve ((Object.get? item s.method).getD .null)
  .ok t.entriesOrNone

def pathName (s : Site) : Except Failure String :=
  match s.path with
  | .text p => .ok (Identifier.ofPath p)
  | .bytes _ => .error (.malformed .bytesForText)
  | _ => .error (.malformed .notText)

end Site

end ApiOutline
