import ApiOutline.Yaml.Fault
import ApiOutline.Yaml.Tag
import ApiOutline.Number.Reader
import ApiOutline.Scalar
import ApiOutline.Text.Base64
import ApiOutline.Text.Case

/-!
The scalars that texts stand for under their tags.
-/
namespace ApiOutline.Yaml.Tag

open Number Calendar

def unprepared {α : Type} (what : Malformed) : Except Fault α := .error (.unprepared what)

def readTruth (text : String) : Except Fault Scalar :=
  match truthWords.lookup (Text.lowerAscii text) with
  | some b => .ok (.bool b)
  | none => unprepared .unknownTruthWord

def weigh {α : Type} (step : α → α → Nat → Option α) (zero : α) (digits : List α) : Option α := do
  let (total, _) ← digits.reverse.foldlM (fun (total, weight) d =>
    (step total d weight).map (·, weight * 60)) (zero, 1)
  some total

def readInteger (text : String) : Except Fault Scalar :=
  let (negative, cs) := Text.signed (text.toList.filter (· != '_'))
  let signed (n : Option Int) : Except Fault Scalar :=
    match n with
    | some n => .ok (.int (if negative then -n else n))
    | none => unprepared .outOfRange
  match cs with
  | [] => unprepared .emptyNumber
  | ['0'] => .ok (.int 0)
  | '0' :: 'b' :: rest => signed (Text.boundedInteger? 2 rest)
  | '0' :: 'x' :: rest => signed (Text.boundedInteger? 16 rest)
  | '0' :: _ => signed (Text.boundedInteger? 8 cs)
  | cs =>
    if cs.contains ':' then
      signed (((cs.splitOn ':').mapM (Text.boundedInteger? 10)).bind
        (weigh (fun total d weight => some (total + d * weight)) 0))
    else signed (Text.boundedInteger? 10 cs)

/-- A binary number. Underscores do not count. What is not a number gets the given origin, unless
the word for it stands there. -/
def readFloat (origin : Nat) (text : String) : Except Fault Scalar :=
  let written := (text.toList.filter (· != '_')).map Char.toLower
  let (negative, cs) := Text.signed written
  let signed (f : Binary64) : Except Fault Scalar :=
    .ok (.float ((if negative then f.negated else f).withOrigin origin))
  if written.isEmpty then unprepared .emptyNumber
  else if cs == ".inf".toList then signed (.infinite false)
  else if cs == ".nan".toList then .ok (.float (.nan 0))
  else if cs.contains ':' then
    match (cs.splitOn ':').mapM Binary64.ofText? with
    | none => unprepared .outOfRange
    | some digits =>
      match weigh Binary64.accumulate? (.finite false 0 Binary64.leastExponent) digits with
      | none => unprepared .outOfWord
      | some f => signed f
  else
    match Binary64.ofText? cs with
    | none => unprepared .outOfRange
    | some f => signed f

def number (cs : List Char) : Nat := Text.ofDigits 10 (cs.map fun c => c.toNat - 48)

/-- A day, or a moment if there is a time. Of a fraction six places count, and a line break at the
end does not. -/
def readTimestamp (text : String) : Except Fault Scalar :=
  match stamp? (withoutLastBreak text.toList) with
  | none => unprepared .notATimestamp
  | some s =>
    let date : Date := ⟨number s.year, number s.month, number s.day⟩
    match s.time with
    | none => match date.checked? with
      | some d => .ok (.date d)
      | none => unprepared .outOfRange
    | some (hour, minute, second, fraction) =>
      let micro := fraction.take 6
      let offset := s.zone.map fun (west, h, m) =>
        let o : Int := number h * 60 + number m
        if west then -o else o
      let moment : Moment := ⟨date, number hour, number minute, number second,
        number micro * Nat.pow 10 (6 - micro.length), offset⟩
      match moment.checked? with
      | some m => .ok (.moment m)
      | none => unprepared .outOfRange

def readBinary (text : String) : Except Fault Scalar :=
  if text.toList.all (·.toNat < 128) then
    match Text.Base64.decode text.toList with
    | some bytes => .ok (.bytes bytes)
    | none => .error .badBinary
  else .error .badBinary

/-- The scalar that a text stands for under a tag. Scalars that are not a number are told apart by
their origins. -/
def read (tag : Tag) (origin : Nat) (text : String) : Except Fault Scalar :=
  match tag with
  | .null => .ok .null
  | .bool => readTruth text
  | .int => readInteger text
  | .float => readFloat origin text
  | .timestamp => readTimestamp text
  | .text => .ok (.text text)
  | .binary => readBinary text
  | _ => .error .unknownTag

end ApiOutline.Yaml.Tag
