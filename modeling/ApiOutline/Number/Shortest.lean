import ApiOutline.Number.Binary64

/-!
The shortest decimal text that reads back as a binary number. Among the decimals with the fewest
digits that round to the number, the nearest one is written. Which exponents are written with a
power of ten is a decision of the format, held in one record.
-/
namespace ApiOutline.Number

structure Decimal where
  digits : Nat
  exponent : Int
  deriving DecidableEq, Repr

namespace Binary64

/-- The reals that round to a positive number, over one common denominator: four times the lower
end, the number itself and the upper end, and whether the ends belong. Below a power of two the
gap to the next smaller number is half as wide. -/
structure Interval where
  low : Nat
  value : Nat
  high : Nat
  denominator : Nat
  closed : Bool

def interval (m : Nat) (e : Int) : Interval :=
  let narrow := m = Nat.pow 2 (mantissaBits - 1) ∧ leastExponent < e
  let low := 4 * m - (if narrow then 1 else 2)
  let scale := if 0 ≤ e then Nat.pow 2 e.toNat else 1
  let denominator := 4 * (if 0 ≤ e then 1 else Nat.pow 2 (-e).toNat)
  ⟨low * scale, 4 * m * scale, (4 * m + 2) * scale, denominator, m % 2 = 0⟩

def Interval.holds (i : Interval) (k : Nat) (t : Int) : Bool :=
  let (n, d) := if 0 ≤ t then (k * Nat.pow 10 t.toNat * i.denominator, 1)
    else (k * i.denominator, Nat.pow 10 (-t).toNat)
  if i.closed then i.low * d ≤ n && n ≤ i.high * d else i.low * d < n && n < i.high * d

/-- The multiple of `10 ^ t` in the interval that is nearest to the number, an exact tie going to
the even multiple. The two multiples around the number are the only candidates. -/
def Interval.nearest? (i : Interval) (t : Int) : Option Nat :=
  let (n, d) := if 0 ≤ t then (i.value, i.denominator * Nat.pow 10 t.toNat)
    else (i.value * Nat.pow 10 (-t).toNat, i.denominator)
  let below := n / d
  let r := n % d
  let first := if 2 * r < d ∨ (2 * r = d ∧ below % 2 = 0) then below else below + 1
  let second := if first = below then below + 1 else below
  if i.holds first t then some first
  else if i.holds second t then some second
  else none

/-- Tries ever finer grids, starting with the multiples of `10 ^ t`. -/
def shortestFrom (i : Interval) : Nat → Int → Decimal
  | 0, t => ⟨0, t⟩
  | fuel + 1, t =>
    match i.nearest? t with
    | some k => ⟨k, t⟩
    | none => shortestFrom i fuel (t - 1)

/-- The decimal with the fewest digits that rounds to `m * 2 ^ e`. A number of at most 17 digits
always does, so eighteen grids from the one above the number's own size suffice. -/
def shortest (m : Nat) (e : Int) : Decimal :=
  if m = 0 then ⟨0, 0⟩
  else
    let i := interval m e
    let places : Int := (Nat.toDigits 10 (i.value / i.denominator)).length
    let start : Int :=
      if i.denominator ≤ i.value then places
      else -(((Nat.toDigits 10 (i.denominator / i.value)).length : Int) - 1)
    shortestFrom i 20 start

end Binary64

/-- How a format writes numbers: the first digit's power of ten decides between positions and a
power of ten, which is written with a sign and a least number of digits. -/
structure Style where
  leastPositional : Int
  greatestPositional : Int
  exponentWidth : Nat
  infinity : String
  notANumber : String

def Style.plain : Style := ⟨-4, 15, 2, "inf", "nan"⟩

def Style.worded : Style := { Style.plain with infinity := "Infinity", notANumber := "NaN" }

def Decimal.stripped (d : Decimal) : List Char × Int :=
  let cs := Nat.toDigits 10 d.digits
  let zeros := (cs.reverse.takeWhile (· == '0')).length
  if d.digits = 0 then (['0'], 0) else (cs.take (cs.length - zeros), d.exponent + zeros)

def Decimal.render (style : Style) (d : Decimal) : String :=
  let (cs, e) := d.stripped
  let lead : Int := cs.length + e - 1
  if style.leastPositional ≤ lead ∧ lead ≤ style.greatestPositional then
    if 0 ≤ e then String.ofList (cs ++ List.replicate e.toNat '0' ++ ['.', '0'])
    else if 0 ≤ lead then
      String.ofList (cs.take (lead.toNat + 1) ++ '.' :: cs.drop (lead.toNat + 1))
    else String.ofList ('0' :: '.' :: List.replicate (-lead - 1).toNat '0' ++ cs)
  else
    let fraction := match cs.drop 1 with
      | [] => []
      | rest => '.' :: rest
    let power := toString lead.natAbs
    String.ofList (cs.take 1 ++ fraction ++ ['e', if lead < 0 then '-' else '+']
      ++ List.replicate (style.exponentWidth - power.length) '0') ++ power

def Binary64.render (style : Style) : Binary64 → String
  | .nan _ => style.notANumber
  | .infinite negative => (if negative then "-" else "") ++ style.infinity
  | .finite negative m e => (if negative then "-" else "") ++ (shortest m e).render style

end ApiOutline.Number
