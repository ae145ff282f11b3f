import ApiOutline.Machine
import ApiOutline.Tree
import ApiOutline.Text.Digit
import ApiOutline.Text.Half

/-!
Reading a document from JSON text. Beside the standard the words `NaN`, `Infinity` and `-Infinity`
are numbers, and of an object's equal keys the last value counts, at the first one's place. A fault
knows how much of the text was left, which gives its line and column.
-/
namespace ApiOutline.Json

open Number

inductive Expectation where
  | value
  | propertyName
  | colon
  | comma
  | theEnd
  | closedText
  | plainCharacter
  | escape
  | unicodeEscape
  | noByteOrderMark
  deriving DecidableEq, Repr

/-- A text is no JSON from the place where `remaining` characters are left, or it holds an integer
with more digits or more levels of brackets than are read. -/
inductive Fault where
  | unexpected (what : Expectation) (remaining : Nat)
  | longInteger
  | tooDeep
  deriving DecidableEq, Repr

def Expectation.wording : Expectation → String
  | .value => "Expecting value"
  | .propertyName => "Expecting property name enclosed in double quotes"
  | .colon => "Expecting ':' delimiter"
  | .comma => "Expecting ',' delimiter"
  | .theEnd => "Extra data"
  | .closedText => "Unterminated string starting at"
  | .plainCharacter => "Invalid control character at"
  | .escape => "Invalid \\escape"
  | .unicodeEscape => "Invalid \\uXXXX escape"
  | .noByteOrderMark => "Unexpected UTF-8 BOM (decode using utf-8-sig)"

/-- The wording and the place, counted in characters. Lines and columns count from one. -/
def Expectation.message (what : Expectation) (text : List Char) (remaining : Nat) : String :=
  let before := text.take (text.length - remaining)
  let line := before.count '\n' + 1
  let column := (before.reverse.takeWhile (· != '\n')).length + 1
  s!"{what.wording}: line {line} column {column} (char {before.length})"

def refuse {α : Type} (what : Expectation) (rest : List Char) : Except Fault α :=
  .error (.unexpected what rest.length)

def isSpace (c : Char) : Bool := c = ' ' || c = '\t' || c = '\n' || c = '\r'

def skip (cs : List Char) : List Char := cs.dropWhile isSpace

def escaped? : Char → Option Char
  | '"' => some '"'
  | '\\' => some '\\'
  | '/' => some '/'
  | 'b' => some (Char.ofNat 8)
  | 'f' => some (Char.ofNat 12)
  | 'n' => some '\n'
  | 'r' => some '\r'
  | 't' => some '\t'
  | _ => none

/-- The units of a text up to its closing quote; `opening` is the text from its opening quote. An
escape of four digits is read only if a character follows it. -/
def textUnits (opening : List Char) (units : List Nat) :
    List Char → Except Fault (List Nat × List Char)
  | [] => refuse .closedText opening
  | '"' :: rest => .ok (units.reverse, rest)
  | ['\\'] => refuse .closedText opening
  | '\\' :: 'u' :: rest =>
    match rest with
    | a :: b :: c :: d :: next :: rest' =>
      match Text.natural? 16 [a, b, c, d] with
      | some n => textUnits opening (n :: units) (next :: rest')
      | none => refuse .unicodeEscape ('u' :: rest)
    | _ => refuse .unicodeEscape ('u' :: rest)
  | '\\' :: e :: rest =>
    match escaped? e with
    | some c => textUnits opening (c.toNat :: units) rest
    | none => refuse .escape ('\\' :: e :: rest)
  | c :: rest =>
    if c.toNat < 32 then refuse .plainCharacter (c :: rest)
    else textUnits opening (c.toNat :: units) rest

def textBody (rest : List Char) : Except Fault (String × List Char) := do
  let (units, rest) ← textUnits ('"' :: rest) [] rest
  .ok (String.ofList (Text.joinHalves units), rest)

def digits (cs : List Char) : List Char × List Char :=
  (cs.takeWhile Char.isDigit, cs.dropWhile Char.isDigit)

def fraction (cs : List Char) : List Char × List Char :=
  match cs with
  | '.' :: rest =>
    match digits rest with
    | ([], _) => ([], cs)
    | (ds, rest) => (ds, rest)
  | _ => ([], cs)

/-- A power needs a digit; otherwise its letter does not belong to the number. -/
def power (cs : List Char) : Option Int × List Char :=
  match cs with
  | e :: rest =>
    if e = 'e' ∨ e = 'E' then
      let (negative, rest) := match rest with
        | '-' :: rest => (true, rest)
        | '+' :: rest => (false, rest)
        | rest => (false, rest)
      match digits rest with
      | ([], _) => (none, cs)
      | (ds, rest) =>
        let n : Int := Text.ofDigits 10 (ds.map fun c => c.toNat - 48)
        (some (if negative then -n else n), rest)
    else (none, cs)
  | [] => (none, cs)

def valueOf (ds : List Char) : Nat := Text.ofDigits 10 (ds.map fun c => c.toNat - 48)

def number (cs : List Char) : Except Fault (Scalar × List Char) :=
  let (negative, rest) := match cs with
    | '-' :: rest => (true, rest)
    | rest => (false, rest)
  let (whole, rest) := match rest with
    | '0' :: rest => (['0'], rest)
    | rest => digits rest
  if whole.isEmpty then refuse .value cs
  else
    let (fractional, rest) := fraction rest
    let (exponent, rest) := power rest
    if fractional.isEmpty ∧ exponent.isNone then
      if Text.mostDigits < whole.length then .error .longInteger
      else
        let n : Int := valueOf whole
        .ok (.int (if negative then -n else n), rest)
    else
      let shift := exponent.getD 0 - fractional.length
      .ok (.float (Binary64.ofDecimal negative (valueOf (whole ++ fractional)) shift), rest)

def words : List (List Char × Scalar) :=
  [("null".toList, .null), ("true".toList, .bool true), ("false".toList, .bool false),
    ("NaN".toList, .float (.nan 0)), ("Infinity".toList, .float (.infinite false)),
    ("-Infinity".toList, .float (.infinite true))]

def scalar (cs : List Char) : Except Fault (Tree × List Char) :=
  match words.find? (·.1.isPrefixOf cs) with
  | some (w, s) => .ok (.scalar s, cs.drop w.length)
  | none => (number cs).map fun (s, rest) => (.scalar s, rest)

mutual

/-- A value at the front of the text, with so many levels of brackets to go. The first argument
bounds the depth and the number of the values; twice the length of the text is enough, since each
character opens at most a list and its first item. -/
def value : Nat → Nat → List Char → Except Fault (Tree × List Char)
  | 0, _, cs => refuse .value cs
  | fuel + 1, levels, cs =>
    match cs with
    | '"' :: rest => (textBody rest).map fun (s, rest) => (.text s, rest)
    | '{' :: rest =>
      if levels = 0 then .error .tooDeep
      else
        match skip rest with
        | '}' :: rest => .ok (.object [], rest)
        | rest => (members fuel (levels - 1) [] rest).map fun (o, rest) => (.object o, rest)
    | '[' :: rest =>
      if levels = 0 then .error .tooDeep
      else
        match skip rest with
        | ']' :: rest => .ok (.list [], rest)
        | rest => (items fuel (levels - 1) [] rest).map fun (ts, rest) => (.list ts, rest)
    | cs => scalar cs

def members : Nat → Nat → Object → List Char → Except Fault (Object × List Char)
  | 0, _, _, cs => refuse .value cs
  | fuel + 1, levels, o, cs =>
    match cs with
    | '"' :: rest => do
      let (key, rest) ← textBody rest
      match skip rest with
      | ':' :: rest =>
        let (v, rest) ← value fuel levels (skip rest)
        let o := o.insert (.text key) v
        match skip rest with
        | '}' :: rest => .ok (o, rest)
        | ',' :: rest => members fuel levels o (skip rest)
        | rest => refuse .comma rest
      | rest => refuse .colon rest
    | cs => refuse .propertyName cs

def items : Nat → Nat → List Tree → List Char → Except Fault (List Tree × List Char)
  | 0, _, _, cs => refuse .value cs
  | fuel + 1, levels, ts, cs => do
    let (v, rest) ← value fuel levels cs
    match skip rest with
    | ']' :: rest => .ok ((v :: ts).reverse, rest)
    | ',' :: rest => items fuel levels (v :: ts) (skip rest)
    | rest => refuse .comma rest

end

def read [Machine] (text : List Char) : Except Fault Tree :=
  if text.head? = some (Char.ofNat 0xfeff) then refuse .noByteOrderMark text
  else do
    let (v, rest) ← value (2 * text.length + 2) Machine.jsonLevels (skip text)
    match skip rest with
    | [] => .ok v
    | rest => refuse .theEnd rest

end ApiOutline.Json
