/-!
Binary floating point numbers of 64 bits, kept as sign, mantissa and exponent. A finite number is
`mantissa * 2 ^ exponent` with a mantissa below `2 ^ 53` and an exponent of at least `-1074`; it is
written with the smallest such exponent that the mantissa allows, so equal structures are equal
bits. What is not a number keeps the number of its origin, zero for the one that all words share.
Reading rounds an exact quotient to the nearest number, a tie to the even mantissa.
-/
namespace ApiOutline.Number

inductive Binary64 where
  | nan (origin : Nat)
  | infinite (negative : Bool)
  | finite (negative : Bool) (mantissa : Nat) (exponent : Int)
  deriving DecidableEq, Repr, Inhabited

namespace Binary64

def mantissaBits : Nat := 53
def leastExponent : Int := -1074
def greatestExponent : Int := 971

def roundQuotient (numerator denominator : Nat) : Nat :=
  let q := numerator / denominator
  let r := numerator % denominator
  if 2 * r < denominator then q
  else if denominator < 2 * r then q + 1
  else q + q % 2

def scaled (numerator denominator : Nat) (exponent : Int) : Nat × Nat :=
  if 0 ≤ exponent then (numerator, denominator * Nat.pow 2 exponent.toNat)
  else (numerator * Nat.pow 2 (-exponent).toNat, denominator)

/-- The exponent at which a positive quotient has exactly 53 bits before its binary point, but no
smaller than the least one. -/
def exponentFor (numerator denominator : Nat) : Int :=
  let guess : Int := (numerator.log2 : Int) - denominator.log2 - mantissaBits
  let fits (e : Int) : Bool :=
    let (n, d) := scaled numerator denominator e
    n / d < Nat.pow 2 mantissaBits
  let e := if fits guess then guess else guess + 1
  max e leastExponent

def ofRatio (negative : Bool) (numerator denominator : Nat) : Binary64 :=
  if numerator = 0 then .finite negative 0 leastExponent
  else
    let e := exponentFor numerator denominator
    let (n, d) := scaled numerator denominator e
    let m := roundQuotient n d
    let (m, e) := if m = Nat.pow 2 mantissaBits then (Nat.pow 2 (mantissaBits - 1), e + 1)
      else (m, e)
    if greatestExponent < e then .infinite negative else .finite negative m e

/-- The number nearest to `digits * 10 ^ exponent`. Past 400 places on either side of the last
digit of the format the result no longer depends on the exponent. -/
def ofDecimal (negative : Bool) (digits : Nat) (exponent : Int) : Binary64 :=
  if digits = 0 then .finite negative 0 leastExponent
  else
    let places : Int := (Nat.toDigits 10 digits).length
    if 400 < places + exponent then .infinite negative
    else if places + exponent < -400 then .finite negative 0 leastExponent
    else if 0 ≤ exponent then ofRatio negative (digits * Nat.pow 10 exponent.toNat) 1
    else ofRatio negative digits (Nat.pow 10 (-exponent).toNat)

def isFinite : Binary64 → Bool
  | .finite .. => true
  | _ => false

def origin : Binary64 → Nat
  | .nan n => n
  | _ => 0

def withOrigin (n : Nat) : Binary64 → Binary64
  | .nan _ => .nan n
  | f => f

end Binary64

inductive Magnitude where
  | negativeInfinity
  | exact (value : Rat)
  | positiveInfinity
  deriving DecidableEq, Repr

def Binary64.magnitude? : Binary64 → Option Magnitude
  | .nan _ => none
  | .infinite negative => some (if negative then .negativeInfinity else .positiveInfinity)
  | .finite negative m e =>
    let r : Rat := if 0 ≤ e then ((m * Nat.pow 2 e.toNat : Nat) : Rat)
      else mkRat m (Nat.pow 2 (-e).toNat)
    some (.exact (if negative then -r else r))

end ApiOutline.Number
