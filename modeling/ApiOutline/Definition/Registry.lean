import ApiOutline.Definition.Hints
import ApiOutline.Identifier

/-!
The names that types were given, and the texts that they were derived from. A new name is the first
free one among the hints; when all of them are taken the preferred one gets the least free number
from two on.
-/
namespace ApiOutline

structure Registry where
  used : List String
  origins : List (String × String)
  deriving DecidableEq, Repr

namespace Registry

def empty : Registry := ⟨[], []⟩

def isUsed (r : Registry) (name : String) : Bool := r.used.contains name

def register (r : Registry) (raw : String) : String × Registry :=
  let name := Identifier.sanitize raw
  (name, ⟨if r.isUsed name then r.used else r.used ++ [name], Entries.insert name raw r.origins⟩)

/-- The least number from `k` on that makes a free name. Among more numbers than there are names
one is free, so as many steps as there are names suffice. -/
def freeNumber (r : Registry) (base : String) : Nat → Nat → Nat
  | 0, k => k
  | fuel + 1, k => if r.isUsed (base ++ toString k) then freeNumber r base fuel (k + 1) else k

def proposal (r : Registry) (hints : Option Hints) : Except Failure String :=
  let candidates := (hints.map Hints.candidates).getD []
  match candidates with
  | [] => .error .nameless
  | first :: _ =>
    match candidates.find? fun c => !r.isUsed (Identifier.sanitize c) with
    | some c => .ok c
    | none =>
      let base := Identifier.sanitize first
      .ok (base ++ toString (r.freeNumber base r.used.length 2))

def choose (r : Registry) (hints : Option Hints) : Except Failure (String × Registry) :=
  (r.proposal hints).map r.register

end Registry

end ApiOutline
