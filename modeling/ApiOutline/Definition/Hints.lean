import ApiOutline.Failure
import ApiOutline.Tree

/-!
What the type of a payload could be called: after the reference to its schema, after the schema's
title, or after the path of its operation, in this order of preference.
-/
namespace ApiOutline

structure Hints where
  fromReference : Option String
  fromSchema : Option String
  fromPath : Option String
  deriving DecidableEq, Repr

namespace Hints

def empty : Hints := ⟨none, none, none⟩

def candidates (h : Hints) : List String :=
  h.fromReference.toList ++ h.fromSchema.toList ++ h.fromPath.toList

def fault? (name : String) (t : Tree) : Option FieldFault :=
  if t.isNull || t.text?.isSome then none else some ⟨[.name name], .text⟩

def ofObject (o : Object) : Except Failure Hints :=
  let names := ["from_ref", "from_schema", "from_path"]
  match names.filterMap fun n => fault? n (Object.field o n) with
  | [] => .ok ⟨(Object.field o "from_ref").text?, (Object.field o "from_schema").text?,
      (Object.field o "from_path").text?⟩
  | faults => .error (.invalid ⟨"NameHints", faults⟩)

end Hints

end ApiOutline
