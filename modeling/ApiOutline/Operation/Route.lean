import ApiOutline.Method
import ApiOutline.Text.Blank

/-!
Operations of which one lies below another. A GET operation whose path has a parameter stands for a
single resource; the GET operations whose paths contain its path are its sub-operations.
-/
namespace ApiOutline

structure Route where
  id : String
  path : String
  method : Method
  deriving DecidableEq, Repr

namespace Route

/-- Whether an opening brace comes before a closing one on some line of a path. -/
def hasParameter (path : String) : Bool :=
  (path.toList.splitOn '\n').any fun line => (line.dropWhile (· != '{')).contains '}'

def contains (path part : String) : Bool := Text.hasPart part.toList path.toList

def subOperations (r : Route) (all : List Route) : List String :=
  if r.method = .get && hasParameter r.path then
    (all.filter fun c => c.method = .get && c.id != r.id && contains c.path r.path).map (·.id)
  else []

end Route

end ApiOutline
