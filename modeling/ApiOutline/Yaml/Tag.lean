import ApiOutline.Text.Digit
import ApiOutline.Calendar

/-!
Tags of nodes. A plain scalar without a tag has the one that its text suggests: a truth value in
words, a number in one of several bases, a day or a moment, null, or a text.
-/
namespace ApiOutline.Yaml

inductive Tag where
  | null
  | bool
  | int
  | float
  | timestamp
  | merge
  | value
  | text
  | binary
  | sequence
  | mapping
  | set
  | pairs
  | unknown
  deriving DecidableEq, Repr

namespace Tag

def common : String := "tag:yaml.org,2002:"

def named : List (String × Tag) :=
  [("null", .null), ("bool", .bool), ("int", .int), ("float", .float), ("timestamp", .timestamp),
    ("merge", .merge), ("value", .value), ("str", .text), ("binary", .binary), ("seq", .sequence),
    ("map", .mapping), ("set", .set), ("omap", .pairs), ("pairs", .pairs)]

def ofText (s : String) : Tag :=
  ((named.find? fun (n, _) => common ++ n == s).map (·.2)).getD .unknown

def truthWords : List (String × Bool) :=
  [("yes", true), ("no", false), ("true", true), ("false", false), ("on", true), ("off", false)]

def inThreeCases (word : List Char) (cs : List Char) : Bool :=
  cs == word || cs == word.map Char.toUpper
    || cs == (word.take 1).map Char.toUpper ++ word.drop 1

def isTruth (cs : List Char) : Bool := truthWords.any fun (w, _) => inThreeCases w.toList cs

def isNull (cs : List Char) : Bool := cs == [] || cs == ['~'] || inThreeCases "null".toList cs

def unsigned : List Char → List Char
  | '-' :: cs => cs
  | '+' :: cs => cs
  | cs => cs

def isDigitOrLine (c : Char) : Bool := c.isDigit || c = '_'

def isDigits : List Char → Bool
  | [] => false
  | c :: cs => c.isDigit && cs.all isDigitOrLine

def sixtieths (parts : List (List Char)) : Bool :=
  !parts.isEmpty && parts.all fun p =>
    match p with
    | [d] => d.isDigit
    | [t, d] => '0' ≤ t && t ≤ '5' && d.isDigit
    | _ => false

def isInt (cs : List Char) : Bool :=
  let cs := unsigned cs
  let rest := cs.drop 2
  let binary := cs.take 2 == ['0', 'b'] && !rest.isEmpty
    && rest.all fun c => c = '0' || c = '1' || c = '_'
  let octal := cs.take 1 == ['0'] && !(cs.drop 1).isEmpty
    && (cs.drop 1).all fun c => ('0' ≤ c && c ≤ '7') || c = '_'
  let hexadecimal := cs.take 2 == ['0', 'x'] && !rest.isEmpty
    && rest.all fun c => (Text.digitOf? 16 c).isSome || c = '_'
  let decimal := cs == ['0'] || (isDigits cs && cs.head? != some '0')
  let sexagesimal := match cs.splitOn ':' with
    | first :: more => isDigits first && first.head? != some '0' && sixtieths more
    | [] => false
  binary || octal || decimal || hexadecimal || sexagesimal

def isPower : List Char → Bool
  | [] => true
  | e :: sign :: ds =>
    (e = 'e' || e = 'E') && (sign = '-' || sign = '+') && !ds.isEmpty && ds.all Char.isDigit
  | _ => false

def isFloat (cs : List Char) : Bool :=
  let digits := unsigned cs
  let whole := digits.takeWhile (· != '.')
  let isPointed := digits.contains '.'
  let fraction := (digits.dropWhile (· != '.')).drop 1
  let afterFraction := fraction.dropWhile isDigitOrLine
  let ordinary := isPointed && isDigits whole && isPower afterFraction
  let leadingPoint := match cs with
    | '.' :: d :: _ => d.isDigit && isPower afterFraction
    | _ => false
  let sexagesimal := isPointed && afterFraction.isEmpty && match whole.splitOn ':' with
    | first :: more => isDigits first && sixtieths more
    | [] => false
  let infinite := match digits with
    | '.' :: word => inThreeCases "inf".toList word
    | _ => false
  let notANumber := cs == ".nan".toList || cs == ".NaN".toList || cs == ".NAN".toList
  ordinary || leadingPoint || sexagesimal || infinite || notANumber

structure Stamp where
  year : List Char
  month : List Char
  day : List Char
  time : Option (List Char × List Char × List Char × List Char)
  zone : Option (Bool × List Char × List Char)

def someDigits (least most : Nat) (cs : List Char) : Option (List Char × List Char) :=
  let ds := (cs.take most).takeWhile Char.isDigit
  if ds.length < least then none else some (ds, cs.drop ds.length)

def after (c : Char) : List Char → Option (List Char)
  | [] => none
  | d :: cs => if c = d then some cs else none

def isBlank (c : Char) : Bool := c = ' ' || c = '\t'

def zone? (cs : List Char) : Option (Option (Bool × List Char × List Char)) :=
  match cs with
  | [] => some none
  | _ =>
    match cs.dropWhile isBlank with
    | ['Z'] => some (some (false, [], []))
    | sign :: rest =>
      if sign = '-' ∨ sign = '+' then do
        let (hour, rest) ← someDigits 1 2 rest
        match rest with
        | [] => some (some (sign = '-', hour, []))
        | ':' :: rest =>
          let (minute, rest) ← someDigits 2 2 rest
          if rest.isEmpty then some (some (sign = '-', hour, minute)) else none
        | _ => none
      else none
    | [] => none

def stamp? (cs : List Char) : Option Stamp := do
  let (year, rest) ← someDigits 4 4 cs
  let rest ← after '-' rest
  let (month, rest) ← someDigits 1 2 rest
  let rest ← after '-' rest
  let (day, rest) ← someDigits 1 2 rest
  if rest.isEmpty then some ⟨year, month, day, none, none⟩
  else
    let rest ← match rest with
      | 'T' :: rest => some rest
      | 't' :: rest => some rest
      | c :: rest => if isBlank c then some (rest.dropWhile isBlank) else none
      | [] => none
    let (hour, rest) ← someDigits 1 2 rest
    let rest ← after ':' rest
    let (minute, rest) ← someDigits 2 2 rest
    let rest ← after ':' rest
    let (second, rest) ← someDigits 2 2 rest
    let (fraction, rest) := match rest with
      | '.' :: rest => (rest.takeWhile Char.isDigit, rest.dropWhile Char.isDigit)
      | rest => ([], rest)
    let zone ← zone? rest
    some ⟨year, month, day, some (hour, minute, second, fraction), zone⟩

def withoutLastBreak (cs : List Char) : List Char :=
  if 1 < cs.length ∧ cs.getLast? = some '\n' then cs.dropLast else cs

/-- A day alone must have two digits for month and day to be one without a tag. -/
def isTimestamp (cs : List Char) : Bool :=
  match stamp? cs with
  | none => false
  | some s => s.time.isSome || (s.month.length == 2 && s.day.length == 2)

def ofPlain (cs : List Char) : Tag :=
  if isTruth cs then .bool
  else if isFloat cs then .float
  else if isInt cs then .int
  else if cs == ['<', '<'] then .merge
  else if isNull cs then .null
  else if isTimestamp cs then .timestamp
  else if cs == ['='] then .value
  else if cs == ['!'] || cs == ['&'] || cs == ['*'] then .unknown
  else .text

end Tag

end ApiOutline.Yaml
