/-!
Bytes written as text in base 64. Characters that are no digits are passed over. A sign of equality
counts as the end if the digits before it, since the last full group of four, make at least a byte
and fill the group together with the signs right before it.
-/
namespace ApiOutline.Text.Base64

def digit? (c : Char) : Option Nat :=
  if 'A' ≤ c ∧ c ≤ 'Z' then some (c.toNat - 65)
  else if 'a' ≤ c ∧ c ≤ 'z' then some (c.toNat - 71)
  else if '0' ≤ c ∧ c ≤ '9' then some (c.toNat + 4)
  else if c = '+' then some 62
  else if c = '/' then some 63
  else none

def bytesOf (digits : List Nat) : List UInt8 :=
  let filled := digits ++ List.replicate (4 - digits.length) 0
  let n := filled.foldl (fun n d => n * 64 + d) 0
  [(n / 65536).toUInt8, (n / 256).toUInt8, n.toUInt8].take (digits.length * 6 / 8)

def decodeFrom (group : List Nat) (signs : Nat) : List Char → Option (List UInt8)
  | [] => if group.isEmpty then some [] else none
  | c :: cs =>
    if c = '=' then
      if 2 ≤ group.length then
        if 4 ≤ group.length + signs + 1 then some (bytesOf group)
        else decodeFrom group (signs + 1) cs
      else decodeFrom group signs cs
    else
      match digit? c with
      | none => decodeFrom group signs cs
      | some d =>
        if group.length = 3 then (decodeFrom [] 0 cs).map (bytesOf (group ++ [d]) ++ ·)
        else decodeFrom (group ++ [d]) 0 cs

def decode (text : List Char) : Option (List UInt8) := decodeFrom [] 0 text

end ApiOutline.Text.Base64
