import ApiOutline.Failure
import ApiOutline.Tree.Portable

/-!
What the fields of records accept. A field for a text takes a text or the bytes of one; a field for
an object takes one whose keys are texts in this sense.
-/
namespace ApiOutline

namespace Tree

def fieldText? : Tree → Option String
  | .scalar (.text s) => some s
  | .scalar (.bytes bs) => (Text.decoded bs).toOption
  | _ => none

def expectedText : Tree → Expected
  | .scalar (.bytes _) => .encodedText
  | _ => .text

end Tree

def Step.unprintable : Step := .name "<unprintable int object>"

def Scalar.step : Scalar → Step
  | .text s => .name s
  | .bool b => .position (if b then 1 else 0)
  | .int i =>
    if Text.fitsWord i then .position i
    else ((Text.ofInteger? i).map .name).getD .unprintable
  | s => (s.quoted.toOption.map .name).getD .unprintable

def Object.fieldEntries (o : Object) : Object :=
  Object.ofEntries (o.map fun (k, v) => (((Tree.scalar k).fieldText?.map .text).getD k, v))

namespace FieldFault

def ofText (name : String) (t : Tree) : List FieldFault :=
  if t.fieldText?.isSome then [] else [⟨[.name name], t.expectedText⟩]

def ofOptionalText (name : String) (t : Tree) : List FieldFault :=
  if t.isNull then [] else ofText name t

def ofObject (name : String) : Tree → List FieldFault
  | .object o _ => o.filterMap fun (k, _) =>
    if (Tree.scalar k).fieldText?.isSome then none
    else some ⟨[.name name, k.step, .name "[key]"], (Tree.scalar k).expectedText⟩
  | _ => [⟨[.name name], .object⟩]

end FieldFault

end ApiOutline
