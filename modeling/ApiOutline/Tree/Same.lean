import ApiOutline.Machine
import ApiOutline.Malformed
import ApiOutline.Tree

/-!
Structural equality of documents. Objects are equal when they have the same keys and equal values
under each, in any order; lists when they are equal item by item, where a pair counts as a list of
two; sets when they have the same members. A comparison that has to go too deep has no result.
-/
namespace ApiOutline

def Object.sameKeys (l r : Object) : Bool :=
  l.all (fun e => (r.get? e.1).isSome) && r.all (fun e => (l.get? e.1).isSome)

def Scalar.sameMembers (l r : List Scalar) : Bool :=
  let isIn (m : List Scalar) (s : Scalar) : Bool := m.any (·.identity == s.identity)
  l.all (isIn r) && r.all (isIn l)

namespace Tree

mutual

def same : Tree → Tree → Bool
  | .scalar a, .scalar b => a.same b
  | .set l, .set r => Scalar.sameMembers l r
  | .pair a b, .pair c d => a.same c && b.same d
  | .pair a b, .list [c, d] _ => a.same c && b.same d
  | .list ls _, .pair c d => sameItems ls [c, d]
  | .list ls _, .list rs _ => sameItems ls rs
  | .object l _, .object r _ => Object.sameKeys l r && sameEntries r l
  | _, _ => false

def sameItems : List Tree → List Tree → Bool
  | [], [] => true
  | l :: ls, r :: rs => l.same r && sameItems ls rs
  | _, _ => false

def sameEntries (r : Object) : List (Scalar × Tree) → Bool
  | [] => true
  | (k, v) :: rest =>
    (match r.get? k with
      | some w => v.same w
      | none => false) && sameEntries r rest

end

/-- The second of two tests, which counts only if the first one holds. -/
def andThen (first second : Except Malformed Bool) : Except Malformed Bool :=
  match first with
  | .ok true => second
  | r => r

mutual

/-- Compares values with so many levels to go. Items and entries are compared in the order of the
first value up to the first difference. -/
def sameWithin (levels : Nat) : Tree → Tree → Except Malformed Bool
  | .scalar a, .scalar b => .ok (a.same b)
  | .set l, .set r => .ok (Scalar.sameMembers l r)
  | .pair a b, .pair c d =>
    if levels = 0 then .error .tooDeep
    else andThen (a.sameWithin (levels - 1) c) (b.sameWithin (levels - 1) d)
  | .pair a b, .list [c, d] _ =>
    if levels = 0 then .error .tooDeep
    else andThen (a.sameWithin (levels - 1) c) (b.sameWithin (levels - 1) d)
  | .list ls _, .pair c d =>
    if ls.length ≠ 2 then .ok false
    else if levels = 0 then .error .tooDeep
    else sameItemsWithin (levels - 1) ls [c, d]
  | .list ls _, .list rs _ =>
    if ls.length ≠ rs.length then .ok false
    else if ls.isEmpty then .ok true
    else if levels = 0 then .error .tooDeep
    else sameItemsWithin (levels - 1) ls rs
  | .object l _, .object r _ =>
    if !Object.sameKeys l r then .ok false
    else if l.isEmpty then .ok true
    else if levels = 0 then .error .tooDeep
    else sameEntriesWithin (levels - 1) r l
  | _, _ => .ok false

def sameItemsWithin (levels : Nat) : List Tree → List Tree → Except Malformed Bool
  | [], [] => .ok true
  | l :: ls, r :: rs => andThen (l.sameWithin levels r) (sameItemsWithin levels ls rs)
  | _, _ => .ok false

def sameEntriesWithin (levels : Nat) (r : Object) :
    List (Scalar × Tree) → Except Malformed Bool
  | [] => .ok true
  | (k, v) :: rest =>
    andThen
      (match r.get? k with
        | some w => v.sameWithin levels w
        | none => .ok false)
      (sameEntriesWithin levels r rest)

end

def compare [Machine] (l r : Tree) : Except Malformed Bool :=
  l.sameWithin Machine.comparedLevels r

end Tree

end ApiOutline
