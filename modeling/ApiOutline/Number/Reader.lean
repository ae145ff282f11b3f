import ApiOutline.Number.Binary64
import ApiOutline.Text.Integer

/-!
Binary numbers as people write them: decimals with a point, a power of ten or neither, with the
blanks, underscores and digits that integers may have, and the words for infinity and for what is
not a number.
-/
namespace ApiOutline.Number

open Text

/-- A row of digits up to the first other character, where single underscores may stand between
digits; none if an underscore stands elsewhere. -/
def digitsThen (cs : List Char) : Option (List Nat × List Char) :=
  let isPart (c : Char) : Bool := (decimalDigit? c).isSome || c = '_'
  match cs.takeWhile isPart with
  | [] => some ([], cs)
  | row => (digitRow? 10 row).map fun ds => (ds, cs.dropWhile isPart)

def powerOfTen? : List Char → Option Int
  | [] => some 0
  | e :: cs =>
    if e = 'e' ∨ e = 'E' then
      let (negative, cs) := signed cs
      (digitRow? 10 cs).map fun ds =>
        let n : Int := ofDigits 10 ds
        if negative then -n else n
    else none

def Binary64.ofText? (text : List Char) : Option Binary64 :=
  let (negative, cs) := signed (trimWhere isNumberBlank text)
  let word := cs.map Char.toLower
  if word == "inf".toList || word == "infinity".toList then some (.infinite negative)
  else if word == "nan".toList then some (.nan 0)
  else do
    let (whole, rest) ← digitsThen cs
    let (fraction, rest) ← match rest with
      | '.' :: rest => digitsThen rest
      | rest => some ([], rest)
    let power ← powerOfTen? rest
    if whole.isEmpty ∧ fraction.isEmpty then none
    else some (.ofDecimal negative (ofDigits 10 (whole ++ fraction)) (power - fraction.length))

def Binary64.ofRat (r : Rat) : Binary64 := ofRatio (r.num < 0) r.num.natAbs r.den

def Binary64.ofNat? (n : Nat) : Option Binary64 :=
  match ofRatio false n 1 with
  | .finite negative m e => some (.finite negative m e)
  | _ => none

def Binary64.plus (a b : Binary64) : Binary64 :=
  match a.magnitude?, b.magnitude? with
  | some (.exact r), some (.exact q) => ofRat (r + q)
  | some (.exact _), some _ => b
  | some .positiveInfinity, some .negativeInfinity => .nan 0
  | some .negativeInfinity, some .positiveInfinity => .nan 0
  | some _, some _ => a
  | _, _ => .nan 0

def Binary64.times (a weight : Binary64) : Binary64 :=
  match a.magnitude?, weight.magnitude? with
  | some (.exact r), some (.exact q) => ofRat (r * q)
  | _, _ => a

def Binary64.accumulate? (total digit : Binary64) (weight : Nat) : Option Binary64 :=
  (ofNat? weight).map fun w => total.plus (digit.times w)

def Binary64.negated : Binary64 → Binary64
  | .nan n => .nan n
  | .infinite negative => .infinite !negative
  | .finite negative m e => .finite (!negative) m e

end ApiOutline.Number
