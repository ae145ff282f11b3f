import ApiOutline.Text.Blank
import ApiOutline.Text.Digit

/-!
Integers as people write them: with a sign, with blanks around, with single underscores between
digits, and with digits of any script.
-/
namespace ApiOutline.Text

def anyDigit? (base : Nat) (c : Char) : Option Nat :=
  match decimalDigit? c with
  | some d => if d < base then some d else none
  | none => digitOf? base c

def digitRow? (base : Nat) : List Char → Option (List Nat)
  | [] => none
  | [c] => (anyDigit? base c).map ([·])
  | c :: '_' :: cs => do
    let d ← anyDigit? base c
    let ds ← digitRow? base cs
    some (d :: ds)
  | c :: cs => do
    let d ← anyDigit? base c
    let ds ← digitRow? base cs
    some (d :: ds)

def signed : List Char → Bool × List Char
  | '-' :: cs => (true, cs)
  | '+' :: cs => (false, cs)
  | cs => (false, cs)

def withoutMark (base : Nat) (cs : List Char) : List Char :=
  let letter := if base = 2 then some 'b' else if base = 8 then some 'o'
    else if base = 16 then some 'x' else none
  match cs with
  | '0' :: l :: rest =>
    if letter = some l.toLower then
      match rest with
      | '_' :: rest => rest
      | rest => rest
    else cs
  | cs => cs

def integer? (base : Nat) (cs : List Char) : Option Int :=
  let (negative, cs) := signed (trimWhere isNumberBlank cs)
  (digitRow? base (withoutMark base cs)).map fun ds =>
    let n : Int := ofDigits base ds
    if negative then -n else n

/-- An integer without too many digits; in a base that is a power of two there are never too
many. -/
def boundedInteger? (base : Nat) (cs : List Char) : Option Int :=
  if base = 10 ∧ mostDigits < cs.countP (fun c => (anyDigit? base c).isSome) then none
  else integer? base cs

end ApiOutline.Text
