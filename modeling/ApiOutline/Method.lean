import ApiOutline.Scalar
import ApiOutline.Text.Case

/-!
The methods of HTTP that make a key of a path an operation. Keys may be written in any case.
-/
namespace ApiOutline

inductive Method where
  | get
  | put
  | post
  | patch
  | delete
  | head
  | options
  | trace
  deriving DecidableEq, Repr

namespace Method

def word : Method → String
  | .get => "get"
  | .put => "put"
  | .post => "post"
  | .patch => "patch"
  | .delete => "delete"
  | .head => "head"
  | .options => "options"
  | .trace => "trace"

def ofWord? : String → Option Method
  | "get" => some .get
  | "put" => some .put
  | "post" => some .post
  | "patch" => some .patch
  | "delete" => some .delete
  | "head" => some .head
  | "options" => some .options
  | "trace" => some .trace
  | _ => none

def ofKey? : Scalar → Option Method
  | .text s => ofWord? (Text.lowerAscii s)
  | _ => none

end Method

end ApiOutline
