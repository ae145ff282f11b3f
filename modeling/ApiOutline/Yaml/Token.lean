import ApiOutline.Yaml.Character
import ApiOutline.Yaml.Fault

/-!
Tokens of YAML text, and the place in the text that a scan has reached. Blocks have no marks of
their own in the text: their starts and ends are tokens that follow from indentation.
-/
namespace ApiOutline.Yaml

inductive Token where
  | version (major : Nat)
  | handle (handle text : String)
  | directive
  | documentStart
  | documentEnd
  | blockSequenceStart
  | blockMappingStart
  | blockEnd
  | flowSequenceStart
  | flowSequenceEnd
  | flowMappingStart
  | flowMappingEnd
  | flowEntry
  | blockEntry
  | key
  | value
  | alias (name : String)
  | anchor (name : String)
  | tag (handle : Option String) (suffix : String)
  | scalar (text : String) (plain : Bool)
  | streamEnd
  deriving DecidableEq, Repr

structure Cursor where
  rest : List Char
  left : Nat
  index : Nat
  line : Nat
  column : Nat

namespace Cursor

def start (text : List Char) : Cursor := ⟨text, text.length, 0, 0, 0⟩

def peek? (c : Cursor) : Option Char := c.rest.head?

def advance (c : Cursor) : Cursor :=
  match c.rest with
  | [] => c
  | ch :: rest =>
    let c := { c with rest, left := c.left - 1, index := c.index + 1 }
    if isBreak ch && !(ch = '\r' && rest.head? == some '\n') then
      { c with line := c.line + 1, column := 0 }
    else if isMark ch then c
    else { c with column := c.column + 1 }

def advanceBy : Nat → Cursor → Cursor
  | 0, c => c
  | n + 1, c => advanceBy n c.advance

def span (p : Char → Bool) (c : Cursor) : List Char × Cursor :=
  let cs := c.rest.takeWhile p
  (cs, c.advanceBy cs.length)

def skip (p : Char → Bool) (c : Cursor) : Cursor := (c.span p).2

def lineBreak? (c : Cursor) : Option (Char × Cursor) :=
  match c.rest with
  | '\r' :: '\n' :: _ => some ('\n', c.advanceBy 2)
  | ch :: _ =>
    if ch.toNat == 0x2028 || ch.toNat == 0x2029 then some (ch, c.advance)
    else if isBreak ch then some ('\n', c.advance)
    else none
  | [] => none

def atMarks (mark : Char) (c : Cursor) : Bool :=
  match c.rest with
  | a :: b :: d :: rest => a = mark && b = mark && d = mark && endsOr isGap rest
  | _ => false

def atDocumentMark (c : Cursor) : Bool := c.atMarks '-' || c.atMarks '.'

def endOfLine (fault : Fault) (c : Cursor) : Except Fault Cursor :=
  let c := c.skip (· = ' ')
  let c := if c.peek? = some '#' then c.skip (!isBreak ·) else c
  if endsOr isBreak c.rest then .ok ((c.lineBreak?.map (·.2)).getD c) else .error fault

end Cursor

end ApiOutline.Yaml
