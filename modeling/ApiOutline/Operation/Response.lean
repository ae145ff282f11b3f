import ApiOutline.Operation.Site

/-!
The response that stands for an operation's result: the first one declared with a status of 2xx, or
else the default one.
-/
namespace ApiOutline.Site

variable [Machine]

/-- Three digits of which the first is a two; a line feed may follow. -/
def isSuccess (status : String) : Bool :=
  match status.toList with
  | ['2', a, b] => a.isDigit && b.isDigit
  | ['2', a, b, '\n'] => a.isDigit && b.isDigit
  | _ => false

/-- The first entry whose key is shown as a text of a class, with that text. All keys up to it must
be such that they can be shown. -/
def findShown (p : String → Bool) : Object → Except Malformed (Option (String × Tree))
  | [] => .ok none
  | (k, t) :: rest => do
    let shown ← k.display
    if p shown then .ok (some (shown, t)) else findShown p rest

def statusOf (responses : Object) : Except Malformed (Option String) := do
  match ← findShown isSuccess responses with
  | some (status, _) => .ok (some status)
  | none => .ok (if Object.has responses "default" then some "default" else none)

def responses (s : Site) : Except Failure (Option Object) := do
  let endpoint ← s.endpoint
  match Object.get? endpoint (.text "responses") with
  | none => .ok (some [])
  | some t => .ok t.object?

def status (s : Site) : Except Failure (Option String) := do
  let responses ← s.responses
  statusOf (responses.getD [])

def response (s : Site) : Except Failure Object := do
  let responses ← s.responses
  let entries := responses.getD []
  match ← statusOf entries with
  | none => .ok []
  | some status =>
    match ← findShown (· == status) entries with
    | none => .ok []
    | some (_, t) =>
      let t ← s.resolve t
      .ok t.entriesOrNone

end ApiOutline.Site
