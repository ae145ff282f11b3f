import ApiOutline.Yaml.Token
import ApiOutline.Text.Digit
import ApiOutline.Text.Half

/-!
Scalars of YAML text. Where a plain or quoted scalar goes over several lines, a single break
becomes a blank and of several breaks the first one is dropped. Each scan is given as many steps as
there are characters left, since every step moves on.
-/
namespace ApiOutline.Yaml.Cursor

def joined (first : Char) (more : List Char) : List Char :=
  if first ≠ '\n' then first :: more
  else if more.isEmpty then [' ']
  else more

/-! ### Plain scalars -/

/-- The characters of a plain scalar up to a gap, to a colon before a gap, or to a character that
means something in a flow collection. -/
def plainRun (flow : Bool) : List Char → List Char
  | [] => []
  | c :: rest =>
    let stops := isGap c
      || (c = ':' && endsOr (fun d => isGap d || (flow && isFlowIndicator d)) rest)
      || (flow && (c = '?' || isFlowIndicator c))
    if stops then [] else c :: plainRun flow rest

def plainBreaks : Nat → List Char → Cursor → Option (List Char) × Cursor
  | 0, breaks, c => (some breaks.reverse, c)
  | fuel + 1, breaks, c =>
    match c.lineBreak? with
    | some (b, c) => if c.atDocumentMark then (none, c) else plainBreaks fuel (b :: breaks) c
    | none => if c.peek? = some ' ' then plainBreaks fuel breaks c.advance
      else (some breaks.reverse, c)

def plainGap (c : Cursor) : List Char × Bool × Cursor :=
  let (blanks, c) := c.span (· = ' ')
  match c.lineBreak? with
  | none => (blanks, false, c)
  | some (b, c) =>
    if c.atDocumentMark then ([], true, c)
    else
      match plainBreaks c.left [] c with
      | (some more, c) => (joined b more, true, c)
      | (none, c) => ([], true, c)

/-- The rest of a plain scalar after a part and the gap that follows it, whether the last gap holds
a line break, and the place after that gap. -/
def plainFrom (flow : Bool) (indent : Int) :
    Nat → List Char → List Char → Bool → Cursor → List Char × Bool × Cursor
  | 0, parts, _, crossed, c => (parts.reverse, crossed, c)
  | fuel + 1, parts, gap, crossed, c =>
    let run := plainRun flow c.rest
    if run.isEmpty then (parts.reverse, crossed, c)
    else
      let parts := run.reverse ++ gap.reverse ++ parts
      let (gap, crossed, c) := plainGap (c.advanceBy run.length)
      if gap.isEmpty || c.peek? = some '#' || (!flow && c.column < indent) then
        (parts.reverse, crossed, c)
      else plainFrom flow indent fuel parts gap crossed c

def plain (flow : Bool) (indent : Int) (c : Cursor) : List Char × Bool × Cursor :=
  plainFrom flow indent c.left [] [] false c

/-! ### Quoted scalars -/

def quotedBreaks : Nat → List Char → Cursor → Except Fault (List Char × Cursor)
  | 0, breaks, c => .ok (breaks.reverse, c)
  | fuel + 1, breaks, c =>
    if c.atDocumentMark then .error .documentInQuote
    else
      let c := c.skip isSpace
      match c.lineBreak? with
      | some (b, c) => quotedBreaks fuel (b :: breaks) c
      | none => .ok (breaks.reverse, c)

def quotedGap (c : Cursor) : Except Fault (List Char × Cursor) :=
  let (blanks, c) := c.span isSpace
  if c.rest.isEmpty then .error .openQuote
  else
    match c.lineBreak? with
    | none => .ok (blanks, c)
    | some (b, c) => do
      let (more, c) ← quotedBreaks (c.left + 1) [] c
      .ok (joined b more, c)

def escapes : List (Char × Nat) :=
  [('0', 0), ('a', 7), ('b', 8), ('t', 9), ('\t', 9), ('n', 10), ('v', 11), ('f', 12), ('r', 13),
    ('e', 27), (' ', 32), ('"', 34), ('\\', 92), ('/', 47), ('N', 0x85), ('_', 0xa0), ('L', 0x2028),
    ('P', 0x2029)]

def escapeWidths : List (Char × Nat) := [('x', 2), ('u', 4), ('U', 8)]

def numberedEscape (width : Nat) (c : Cursor) : Except Fault (Nat × Cursor) :=
  let digits := c.rest.take width
  match (if digits.length = width then Text.natural? 16 digits else none) with
  | none => .error .badEscape
  | some n =>
    if n ≤ 0x10ffff then .ok (n, c.advanceBy width)
    else if n ≤ 0x7fffffff then .error (.unprepared .outOfRange)
    else .error (.unprepared .outOfWord)

def escape (c : Cursor) : Except Fault (List Nat × Cursor) :=
  match c.rest with
  | [] => .error .badEscape
  | ch :: _ =>
    match escapes.lookup ch, escapeWidths.lookup ch, c.lineBreak? with
    | some n, _, _ => .ok ([n], c.advance)
    | none, some width, _ => (numberedEscape width c.advance).map fun (n, c) => ([n], c)
    | none, none, some (_, c) =>
      (quotedBreaks (c.left + 1) [] c).map fun (bs, c) => (bs.map Char.toNat, c)
    | none, none, none => .error .badEscape

def quotedFrom (double : Bool) : Nat → List Nat → Cursor → Except Fault (List Nat × Cursor)
  | 0, _, _ => .error .openQuote
  | fuel + 1, units, c =>
    match c.rest with
    | [] => .error .openQuote
    | ch :: rest =>
      if isGap ch then do
        let (gap, c) ← quotedGap c
        quotedFrom double fuel ((gap.map Char.toNat).reverse ++ units) c
      else if double && ch = '"' then .ok (units.reverse, c.advance)
      else if double && ch = '\\' then do
        let (more, c) ← escape c.advance
        quotedFrom double fuel (more.reverse ++ units) c
      else if !double && ch = '\'' then
        if rest.head? = some '\'' then quotedFrom double fuel (ch.toNat :: units) (c.advanceBy 2)
        else .ok (units.reverse, c.advance)
      else quotedFrom double fuel (ch.toNat :: units) c.advance

def quoted (double : Bool) (c : Cursor) : Except Fault (String × Cursor) := do
  let (units, c) ← quotedFrom double (c.left + 1) [] c.advance
  .ok (String.ofList (units.map Text.ofUnit), c)

/-! ### Block scalars -/

inductive Chomping where
  | strip
  | clip
  | keep
  deriving DecidableEq

def chomping? : Char → Option Chomping
  | '-' => some .strip
  | '+' => some .keep
  | _ => none

def blockHeader (c : Cursor) : Except Fault (Chomping × Option Nat × Cursor) :=
  let digit? (c : Cursor) : Option Nat :=
    match c.peek? with
    | some ch => if ch.isDigit then some (ch.toNat - 48) else none
    | none => none
  let finish (chomping : Chomping) (depth : Option Nat) (c : Cursor) :=
    if depth = some 0 then .error .badBlockHeader
    else if endsOr (fun ch => ch = ' ' || isBreak ch) c.rest then .ok (chomping, depth, c)
    else .error .badBlockHeader
  match c.peek?.bind chomping?, digit? c with
  | some chomping, _ =>
    let c := c.advance
    match digit? c with
    | some n => finish chomping (some n) c.advance
    | none => finish chomping none c
  | none, some n =>
    let c := c.advance
    match c.peek?.bind chomping? with
    | some chomping => finish chomping (some n) c.advance
    | none => finish .clip (some n) c
  | none, none => finish .clip none c

def indentTo (column : Nat) : Nat → Cursor → Cursor
  | 0, c => c
  | fuel + 1, c =>
    if c.column < column && c.peek? = some ' ' then indentTo column fuel c.advance else c

def blockStart : Nat → List Char → Nat → Cursor → List Char × Nat × Cursor
  | 0, breaks, deepest, c => (breaks.reverse, deepest, c)
  | fuel + 1, breaks, deepest, c =>
    match c.lineBreak? with
    | some (b, c) => blockStart fuel (b :: breaks) deepest c
    | none =>
      if c.peek? = some ' ' then blockStart fuel breaks (max deepest c.advance.column) c.advance
      else (breaks.reverse, deepest, c)

def blockBreaks (indent : Nat) : Nat → List Char → Cursor → List Char × Cursor
  | 0, breaks, c => (breaks.reverse, c)
  | fuel + 1, breaks, c =>
    let c := indentTo indent indent c
    match c.lineBreak? with
    | some (b, c) => blockBreaks indent fuel (b :: breaks) c
    | none => (breaks.reverse, c)

/-- The lines of a block scalar, the break of its last line and the empty lines after it. In a
folded scalar a break between two lines that start without a blank becomes a blank. -/
def blockLines (folded : Bool) (indent : Nat) :
    Nat → List Char → List Char → Cursor → List Char × List Char × List Char × Cursor
  | 0, text, breaks, c => (text.reverse, [], breaks, c)
  | fuel + 1, text, breaks, c =>
    let flush := !endsOr isSpace c.rest
    let (line, c) := c.span (!isBreak ·)
    let text := line.reverse ++ breaks.reverse ++ text
    let (ending, c) := match c.lineBreak? with
      | some (b, c) => ([b], c)
      | none => ([], c)
    let (breaks, c) := blockBreaks indent (c.left + 1) [] c
    if c.column = indent ∧ !c.rest.isEmpty then
      let text :=
        if folded && ending == ['\n'] && flush && !endsOr isSpace c.rest then
          if breaks.isEmpty then ' ' :: text else text
        else ending ++ text
      blockLines folded indent fuel text breaks c
    else (text.reverse, ending, breaks, c)

def block (folded : Bool) (outer : Int) (c : Cursor) : Except Fault (String × Cursor) := do
  let (chomping, depth, c) ← blockHeader c.advance
  let c ← c.endOfLine .badBlockHeader
  let least := max (outer + 1) 1
  let (indent, breaks, c) := match depth with
    | some n =>
      let indent := (least + n - 1).toNat
      let (breaks, c) := blockBreaks indent (c.left + 1) [] c
      (indent, breaks, c)
    | none =>
      let (breaks, deepest, c) := blockStart c.left [] 0 c
      (max least.toNat deepest, breaks, c)
  let (text, ending, breaks, c) :=
    if c.column = indent ∧ !c.rest.isEmpty then
      blockLines folded indent (c.left + 1) [] breaks c
    else ([], [], breaks, c)
  let tail := match chomping with
    | .strip => []
    | .clip => ending
    | .keep => ending ++ breaks
  .ok (String.ofList (text ++ tail), c)

end ApiOutline.Yaml.Cursor
