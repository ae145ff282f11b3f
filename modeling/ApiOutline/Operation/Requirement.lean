import ApiOutline.Operation.Site

/-!
The security schemes that an operation asks for. Its own requirements replace those of the whole
document. Schemes that are not declared, and those of OAuth 2.0, are left out.
-/
namespace ApiOutline.Site

variable [Machine]

/-- The items of a requirement list. Texts, bytes, sets and objects hold none that count; other
values cannot be gone through. -/
def requirementsOf (t : Tree) : Except Failure (List Tree) :=
  match t with
  | .list items _ => .ok items
  | .pair a b => .ok [a, b]
  | .set _ => .ok []
  | .object _ _ => .ok []
  | .scalar (.text _) => .ok []
  | .scalar (.bytes _) => .ok []
  | t => if t.isVoid then .ok [] else .error (.malformed .notIterable)

def scheme (s : Site) (schemes : Tree) (key : Scalar) : Except Failure Tree :=
  match schemes with
  | .object o _ => s.resolve ((Object.get? o key).getD .null)
  | t => if t.isVoid then .ok .null else .error (.malformed .notAnObject)

/-- Whether a key counts: its scheme is an object, and not of OAuth 2.0. -/
def asksFor (s : Site) (schemes : Tree) (key : Scalar) : Except Failure Bool := do
  match ← s.scheme schemes key with
  | .object o _ => .ok ((Object.field o "type").text? != some "oauth2")
  | _ => .ok false

/-- The keys of the schemes that an operation asks for, each at its first place. -/
def security (s : Site) : Except Failure (List Scalar) := do
  let endpoint ← s.endpoint
  let own := Object.field endpoint "security"
  let asked := if own.isNull then Object.field s.document "security" else own
  let components ← Object.inner s.document "components"
  let schemes := Object.field components "securitySchemes"
  let requirements ← requirementsOf asked
  let keys := (requirements.filterMap Tree.object?).flatMap Entries.keys
  keys.foldlM (fun found key => do
    let counts ← s.asksFor schemes key
    .ok (if counts && !found.any (·.identity == key.identity) then found ++ [key] else found)) []

end ApiOutline.Site
