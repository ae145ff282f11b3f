import ApiOutline.Yaml.Token.Scalar
import ApiOutline.Yaml.Token.Tag

/-!
Scanning YAML text into tokens. A key is recognised only by the colon after it, so the scan
remembers where a key may have started and notes later which tokens belong in front of that place.
A place stays possible on its line and for 1024 characters. In a block the column of a token opens
and closes the blocks it belongs to.
-/
namespace ApiOutline.Yaml

/-- A place where a key may have started: the number of the token there. In a block, a key that
starts at the column of its block must turn out to be one. -/
structure PossibleKey where
  token : Nat
  required : Bool
  index : Nat
  line : Nat
  column : Nat

/-- A scan in progress. Tokens are kept latest first; `keys` holds for each depth of flow
collections the place of a possible key, and `inserts` the tokens that belong in front of a token
of the given number. -/
structure Scan where
  cursor : Cursor
  tokens : List Token
  count : Nat
  inserts : List (Nat × List Token)
  flow : Nat
  indent : Int
  outer : List Int
  keyAllowed : Bool
  keys : List (Nat × PossibleKey)

namespace Scan

def start (text : List Char) : Scan :=
  let c := Cursor.start text
  let c := if c.peek?.any isMark then c.advance else c
  ⟨c, [], 0, [], 0, -1, [], true, []⟩

def longestKey : Nat := 1024

def push (t : Token) (s : Scan) : Scan := { s with tokens := t :: s.tokens, count := s.count + 1 }

def take (t : Token) (length : Nat) (s : Scan) : Scan :=
  { s.push t with cursor := s.cursor.advanceBy length }

def isStale (s : Scan) (k : PossibleKey) : Bool :=
  k.line != s.cursor.line || s.cursor.index - k.index > longestKey

def dropStaleKeys (s : Scan) : Except Fault Scan :=
  if s.keys.any fun (_, k) => s.isStale k && k.required then .error .keyWithoutValue
  else .ok { s with keys := s.keys.filter fun (_, k) => !s.isStale k }

def dropKey (s : Scan) : Except Fault Scan :=
  if s.keys.any fun (d, k) => d = s.flow && k.required then .error .keyWithoutValue
  else .ok { s with keys := s.keys.filter fun (d, _) => d ≠ s.flow }

/-- Remembers that a key may start here. -/
def saveKey (s : Scan) : Except Fault Scan :=
  if s.keyAllowed then do
    let required := s.flow = 0 ∧ s.indent = s.cursor.column
    let s ← s.dropKey
    let key : PossibleKey := ⟨s.count, required, s.cursor.index, s.cursor.line, s.cursor.column⟩
    .ok { s with keys := (s.flow, key) :: s.keys }
  else .ok s

def allowKey (allowed : Bool) (s : Scan) : Scan := { s with keyAllowed := allowed }

def closeBlocks (column : Int) : List Int → Scan → Scan
  | [], s => s
  | outer :: more, s =>
    if column < s.indent then
      closeBlocks column more { s.push .blockEnd with indent := outer, outer := more }
    else s

def unwind (column : Int) (s : Scan) : Scan :=
  if s.flow = 0 then s.closeBlocks column s.outer else s

def openBlock (column : Nat) (s : Scan) : Option Scan :=
  if s.indent < column then some { s with indent := column, outer := s.indent :: s.outer } else none

def toToken : Nat → Scan → Scan
  | 0, s => s
  | fuel + 1, s =>
    let c := s.cursor.skip (· = ' ')
    let c := if c.peek? = some '#' then c.skip (!isBreak ·) else c
    match c.lineBreak? with
    | some (_, c) => toToken fuel { s with cursor := c, keyAllowed := s.keyAllowed || s.flow = 0 }
    | none => { s with cursor := c }

def outsideBlocks (s : Scan) : Except Fault Scan :=
  ((s.unwind (-1)).dropKey).map (allowKey false)

def finish (s : Scan) : Except Fault Scan := (s.outsideBlocks).map (push .streamEnd)

def openFlow (t : Token) (s : Scan) : Except Fault Scan := do
  let s ← s.saveKey
  .ok ({ s with flow := s.flow + 1 }.allowKey true |>.take t 1)

def closeFlow (t : Token) (s : Scan) : Except Fault Scan := do
  let s ← s.dropKey
  .ok ({ s with flow := s.flow - 1 }.allowKey false |>.take t 1)

def inBlock (opening : Token) (fault : Fault) (s : Scan) : Except Fault Scan :=
  if s.flow ≠ 0 then .ok s
  else if !s.keyAllowed then .error fault
  else .ok (((s.openBlock s.cursor.column).map (push opening)).getD s)

def blockEntry (s : Scan) : Except Fault Scan := do
  let s ← s.inBlock .blockSequenceStart .entryNotAllowed
  let s ← (s.allowKey true).dropKey
  .ok (s.take .blockEntry 1)

def explicitKey (s : Scan) : Except Fault Scan := do
  let s ← s.inBlock .blockMappingStart .keyNotAllowed
  let s ← (s.allowKey (s.flow = 0)).dropKey
  .ok (s.take .key 1)

/-- The colon before a value. The possible key at this depth now is one. -/
def value (s : Scan) : Except Fault Scan := do
  match s.keys.lookup s.flow with
  | some k =>
    let s := { s with keys := s.keys.filter fun (d, _) => d ≠ s.flow }
    let opened := if s.flow = 0 then s.openBlock k.column else none
    let before := if opened.isSome then [Token.blockMappingStart, .key] else [.key]
    let s := opened.getD s
    .ok ({ s with inserts := (k.token, before) :: s.inserts }.allowKey false |>.take .value 1)
  | none =>
    let s ← s.inBlock .blockMappingStart .valueNotAllowed
    let s ← (s.allowKey (s.flow = 0)).dropKey
    .ok (s.take .value 1)

def keyToken (scan : Cursor → Except Fault (Token × Cursor)) (s : Scan) : Except Fault Scan := do
  let s ← s.saveKey
  let (t, c) ← scan s.cursor
  .ok { (s.push t).allowKey false with cursor := c }

def blockScalar (folded : Bool) (s : Scan) : Except Fault Scan := do
  let s ← (s.allowKey true).dropKey
  let (text, c) ← s.cursor.block folded s.indent
  .ok { s.push (.scalar text false) with cursor := c }

def plainScalar (s : Scan) : Except Fault Scan := do
  let s ← s.saveKey
  let (text, crossed, c) := s.cursor.plain (s.flow ≠ 0) (s.indent + 1)
  .ok { (s.push (.scalar (String.ofList text) true)).allowKey crossed with cursor := c }

def startsPlain (s : Scan) : Bool :=
  match s.cursor.rest with
  | [] => false
  | ch :: rest =>
    !(isGap ch || isIndicator ch)
      || (!endsOr isGap rest && (ch = '-' || (s.flow = 0 && (ch = '?' || ch = ':'))))

def dispatch (s : Scan) (ch : Char) : Except Fault Scan :=
  let c := s.cursor
  let gapNext := endsOr isGap c.rest.tail
  let quotedToken (double : Bool) (c : Cursor) : Except Fault (Token × Cursor) :=
    (c.quoted double).map fun (text, c) => (.scalar text false, c)
  if c.column = 0 ∧ ch = '%' then do
    let s ← s.outsideBlocks
    let (t, c) ← s.cursor.directive
    .ok { s.push t with cursor := c }
  else if c.column = 0 ∧ c.atMarks '-' then (s.outsideBlocks).map (take .documentStart 3)
  else if c.column = 0 ∧ c.atMarks '.' then (s.outsideBlocks).map (take .documentEnd 3)
  else if ch = '[' then s.openFlow .flowSequenceStart
  else if ch = '{' then s.openFlow .flowMappingStart
  else if ch = ']' then s.closeFlow .flowSequenceEnd
  else if ch = '}' then s.closeFlow .flowMappingEnd
  else if ch = ',' then do
    let s ← (s.allowKey true).dropKey
    .ok (s.take .flowEntry 1)
  else if ch = '-' ∧ gapNext then s.blockEntry
  else if ch = '?' ∧ (s.flow ≠ 0 ∨ gapNext) then s.explicitKey
  else if ch = ':' ∧ (s.flow ≠ 0 ∨ gapNext) then s.value
  else if ch = '*' then s.keyToken fun c => (c.anchorName).map fun (n, c) => (.alias n, c)
  else if ch = '&' then s.keyToken fun c => (c.anchorName).map fun (n, c) => (.anchor n, c)
  else if ch = '!' then s.keyToken fun c => (c.tag).map fun (h, t, c) => (.tag h t, c)
  else if ch = '|' ∧ s.flow = 0 then s.blockScalar false
  else if ch = '>' ∧ s.flow = 0 then s.blockScalar true
  else if ch = '\'' then s.keyToken (quotedToken false)
  else if ch = '"' then s.keyToken (quotedToken true)
  else if s.startsPlain then s.plainScalar
  else .error .strayCharacter

def step (s : Scan) : Except Fault Scan := do
  let s := s.toToken (s.cursor.left + 1)
  let s ← s.dropStaleKeys
  let s := s.unwind s.cursor.column
  match s.cursor.peek? with
  | none => s.finish
  | some ch => s.dispatch ch

/-- Puts each noted row of tokens in front of the token of its number. The notes are sorted by
number, and `n` is the number of the first token. -/
def place : List (Nat × List Token) → Nat → List Token → List Token
  | _, _, [] => []
  | [], _, ts => ts
  | (k, before) :: more, n, t :: ts =>
    if k = n then before ++ t :: place more (n + 1) ts
    else t :: place ((k, before) :: more) (n + 1) ts

def result (s : Scan) (count : Nat) : List Token :=
  place (s.inserts.mergeSort fun a b => a.1 ≤ b.1) 0 (s.tokens.reverse.take count)

def settled (s : Scan) : Nat :=
  (s.keys.filter fun (_, k) => !s.isStale k).foldl (fun n (_, k) => min n k.token) s.count

/-- Scans to the end or to the first fault, before which only settled tokens count. -/
def run : Nat → Scan → List Token × Option Fault
  | 0, s => (s.result s.settled, some .strayCharacter)
  | fuel + 1, s =>
    match s.step with
    | .error e => (s.result s.settled, some e)
    | .ok s => if s.tokens.head? = some .streamEnd then (s.result s.count, none) else run fuel s

end Scan

def tokens (text : List Char) : List Token × Option Fault :=
  if text.all isAllowed then (Scan.start text).run (text.length + 2)
  else ([], some .hiddenCharacter)

end ApiOutline.Yaml
