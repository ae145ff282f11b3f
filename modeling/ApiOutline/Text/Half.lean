/-!
Halves of characters. A text may give the two halves of a character above U+FFFF on their own, as
numbers from U+D800 to U+DFFF. A half alone is kept as a character of the last private plane, so
that two halves that nobody joined stay apart from the character that they would make.
-/
namespace ApiOutline.Text

def isFirstHalf (unit : Nat) : Bool := 0xd800 ≤ unit && unit < 0xdc00

def isSecondHalf (unit : Nat) : Bool := 0xdc00 ≤ unit && unit < 0xe000

/-- The character that stands for a number; halves have one of their own. -/
def ofUnit (unit : Nat) : Char :=
  if isFirstHalf unit || isSecondHalf unit then Char.ofNat (0x100000 + unit) else Char.ofNat unit

/-- The number of the half that a character stands for. -/
def half? (c : Char) : Option Nat :=
  let unit := c.toNat - 0x100000
  if isFirstHalf unit || isSecondHalf unit then some unit else none

def joinHalves : List Nat → List Char
  | [] => []
  | [u] => [ofUnit u]
  | u :: v :: rest =>
    if isFirstHalf u && isSecondHalf v then
      Char.ofNat (0x10000 + (u - 0xd800) * 0x400 + (v - 0xdc00)) :: joinHalves rest
    else ofUnit u :: joinHalves (v :: rest)

end ApiOutline.Text
