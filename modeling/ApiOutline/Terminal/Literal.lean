import ApiOutline.Text.Blank
import ApiOutline.Text.Digit

/-!
The arguments of an action that a tag names: numbers, quoted texts, a few constants, and tuples,
sets and dictionaries of them. Only their form matters, since no screen carries the action out.
-/
namespace ApiOutline.Literal

inductive Token where
  | number (isImaginary : Bool)
  | text (isBytes : Bool)
  | constant
  | set
  | sign
  | comma
  | colon
  | opening (c : Char)
  | closing (c : Char)
  deriving DecidableEq, Repr

def isRow (isDigit : Char → Bool) : List Char → Bool
  | [] => false
  | [c] => isDigit c
  | c :: '_' :: d :: cs => isDigit c && isRow isDigit (d :: cs)
  | c :: cs => isDigit c && isRow isDigit cs

def isHexadecimal (c : Char) : Bool := (Text.digitOf? 16 c).isSome

def isMantissa (cs : List Char) : Bool :=
  match cs.splitOn '.' with
  | [whole] => isRow Char.isDigit whole
  | [whole, fraction] =>
    (whole.isEmpty || isRow Char.isDigit whole) && (fraction.isEmpty || isRow Char.isDigit fraction)
      && !(whole.isEmpty && fraction.isEmpty)
  | _ => false

def isExponent : List Char → Bool
  | '+' :: cs => isRow Char.isDigit cs
  | '-' :: cs => isRow Char.isDigit cs
  | cs => isRow Char.isDigit cs

def isDecimal (cs : List Char) : Bool :=
  let mantissa := cs.takeWhile fun c => c.toLower != 'e'
  match cs.drop mantissa.length with
  | [] => isMantissa mantissa
  | _ :: exponent => isMantissa mantissa && isExponent exponent

def number? (cs : List Char) : Option Token :=
  let low := cs.map Char.toLower
  let marked (isDigit : Char → Bool) (digits : List Char) : Option Token :=
    let digits := if digits.head? = some '_' then digits.drop 1 else digits
    if isRow isDigit digits then some (.number false) else none
  match low with
  | '0' :: 'x' :: digits => marked isHexadecimal digits
  | '0' :: 'o' :: digits => marked (fun c => '0' ≤ c && c ≤ '7') digits
  | '0' :: 'b' :: digits => marked (fun c => c = '0' || c = '1') digits
  | low =>
    if low.getLast? = some 'j' then
      if isDecimal low.dropLast then some (.number true) else none
    else if isRow Char.isDigit low then
      let zeros := low.all fun c => c = '0' || c = '_'
      if zeros || (low.head? ≠ some '0' && low.countP Char.isDigit ≤ Text.mostDigits) then
        some (.number false)
      else none
    else if isDecimal low then some (.number false)
    else none

def numberRun : List Char → List Char
  | e :: s :: cs =>
    if e.toLower = 'e' && (s = '+' || s = '-') then e :: s :: numberRun cs
    else if e.isAlphanum || e = '_' || e = '.' then e :: numberRun (s :: cs)
    else []
  | [c] => if c.isAlphanum || c = '_' || c = '.' then [c] else []
  | [] => []

def escapeLength (isBytes : Bool) (c : Char) : Nat :=
  if c = 'x' then 2
  else if isBytes then 0
  else if c = 'u' then 4
  else if c = 'U' then 8
  else 0

/-- What follows a quoted text, whose quote is written once or three times. Escapes count unless
the text is raw, and none gives a character by its name; bytes are of ASCII. -/
def afterText (quote : Char) (isLong isRaw isBytes : Bool) : List Char → Option (List Char)
  | [] => none
  | c :: cs =>
    if c = '\\' then
      match cs with
      | [] => none
      | d :: cs =>
        let digits := if isRaw then 0 else escapeLength isBytes d
        let code := Text.natural? 16 (cs.take digits)
        if digits ≠ 0 && ((cs.take digits).length < digits || code.all (0x10ffff < ·)) then none
        else if d = 'N' && !isRaw && !isBytes then none
        else if isBytes && 127 < d.toNat then none
        else afterText quote isLong isRaw isBytes cs
    else if c = quote then
      match isLong, cs with
      | false, cs => some cs
      | true, d :: e :: rest =>
        if d = quote && e = quote then some rest else afterText quote isLong isRaw isBytes cs
      | true, _ => none
    else if c = '\n' && !isLong then none
    else if isBytes && 127 < c.toNat then none
    else afterText quote isLong isRaw isBytes cs

def quoted? (letters cs : List Char) : Option (Token × List Char) :=
  let kind := String.ofList (letters.map Char.toLower)
  let isBytes := ["b", "br", "rb"].contains kind
  let isRaw := ["r", "br", "rb"].contains kind
  if isBytes || isRaw || ["", "u"].contains kind then
    match cs with
    | q :: cs =>
      let isLong := cs.take 2 == [q, q]
      (afterText q isLong isRaw isBytes (if isLong then cs.drop 2 else cs)).map
        fun rest => (.text isBytes, rest)
    | [] => none
  else none

def word? (word rest : List Char) : Option (Token × List Char) :=
  match String.ofList word with
  | "None" => some (.constant, rest)
  | "True" => some (.constant, rest)
  | "False" => some (.constant, rest)
  | "set" => some (.set, rest)
  | _ => none

def isQuote (c : Char) : Bool := c = '\'' || c = '"'

def token? : List Char → Option (Token × List Char)
  | [] => none
  | '.' :: '.' :: '.' :: cs => some (.constant, cs)
  | c :: cs =>
    if c = '+' || c = '-' then some (.sign, cs)
    else if c = ',' then some (.comma, cs)
    else if c = ':' then some (.colon, cs)
    else if c = '(' || c = '\x7b' then some (.opening c, cs)
    else if c = ')' then some (.closing '(', cs)
    else if c = '\x7d' then some (.closing '\x7b', cs)
    else if c.isDigit || c = '.' then
      let run := numberRun (c :: cs)
      (number? run).map fun t => (t, (c :: cs).drop run.length)
    else
      let word := (c :: cs).takeWhile fun c => c.isAlphanum || c = '_'
      let rest := (c :: cs).drop word.length
      if rest.head?.any isQuote then quoted? word rest else word? word rest

def isGap (c : Char) : Bool := c = ' ' || c = '\t' || c.toNat = 12

def isEmptyLine (line : List Char) : Bool := [none, some '#'].contains (line.dropWhile isGap).head?

def isIndented : List Char → Bool
  | '\\' :: '\n' :: cs => isIndented cs
  | c :: _ => c = ' ' || c = '\t'
  | [] => false

def content (cs : List Char) : Option (List Char) :=
  let text := ['\n'].intercalate (((Text.unifyBreaks cs).splitOn '\n').dropWhile isEmptyLine)
  if isIndented text then none else some text

def deepest : Nat := 200

def tokens : Nat → Nat → List Char → Option (List Token)
  | 0, _, _ => none
  | _, _, [] => some []
  | fuel + 1, depth, c :: cs =>
    if isGap c then tokens fuel depth cs
    else if c = '\n' then
      if depth ≠ 0 then tokens fuel depth cs
      else if (cs.splitOn '\n').all isEmptyLine then some []
      else none
    else if c = '#' then tokens fuel depth (cs.dropWhile (· != '\n'))
    else if c = '\\' then
      match cs with
      | '\n' :: d :: cs => tokens fuel depth (d :: cs)
      | _ => none
    else do
      let (t, rest) ← token? (c :: cs)
      let depth := match t with
        | .opening _ => depth + 1
        | .closing _ => depth - 1
        | _ => depth
      if deepest < depth then none
      else do
        let ts ← tokens fuel depth rest
        some (t :: ts)

/-- What matters of a value: whether it is a number that a sum can begin or end with, and whether
it can be a key. -/
inductive Kind where
  | real
  | signedReal
  | imaginary
  | key
  | compound
  deriving DecidableEq, Repr

def Kind.isKey (k : Kind) : Bool := k != .compound

mutual

def operand : Nat → List Token → Option (Kind × List Token)
  | 0, _ => none
  | fuel + 1, ts =>
    match ts with
    | .number isImaginary :: ts => some (if isImaginary then .imaginary else .real, ts)
    | .text isBytes :: ts =>
      let more := ts.takeWhile fun t => t == .text true || t == .text false
      if more.all (· == .text isBytes) then some (.key, ts.drop more.length) else none
    | .constant :: ts => some (.key, ts)
    | .set :: .opening '(' :: .closing '(' :: ts => some (.compound, ts)
    | .opening '(' :: .closing '(' :: ts => some (.key, ts)
    | .opening '(' :: ts => do
      let (k, isTuple, ts) ← tuple fuel ts
      match ts with
      | .closing '(' :: ts => some (if isTuple && k.isKey then .key else k, ts)
      | _ => none
    | .opening '\x7b' :: .closing '\x7b' :: ts => some (.compound, ts)
    | .opening '\x7b' :: ts => do
      let (k, ts) ← value fuel ts
      if !k.isKey then none
      else
        match ts with
        | .colon :: ts => do
          let (_, ts) ← value fuel ts
          pairs fuel ts
        | .closing '\x7b' :: ts => some (.compound, ts)
        | .comma :: .closing '\x7b' :: ts => some (.compound, ts)
        | .comma :: ts => do
          let (k, _, ts) ← tuple fuel ts
          match ts with
          | .closing '\x7b' :: ts => if k.isKey then some (.compound, ts) else none
          | _ => none
        | _ => none
    | _ => none

def value : Nat → List Token → Option (Kind × List Token)
  | 0, _ => none
  | fuel + 1, ts => do
    let (k, ts) ← match ts with
      | .sign :: ts => do
        match ← operand fuel ts with
        | (.real, ts) => some (.signedReal, ts)
        | (.imaginary, ts) => some (.key, ts)
        | _ => none
      | ts => operand fuel ts
    match ts with
    | .sign :: ts =>
      match ← operand fuel ts with
      | (.imaginary, .sign :: _) => none
      | (.imaginary, ts) => if k == .real || k == .signedReal then some (.key, ts) else none
      | _ => none
    | ts => some (k, ts)

def tuple : Nat → List Token → Option (Kind × Bool × List Token)
  | 0, _ => none
  | fuel + 1, ts => do
    let (k, ts) ← value fuel ts
    match ts with
    | [.comma] => some (k, true, [])
    | .comma :: .closing c :: ts => some (k, true, .closing c :: ts)
    | .comma :: ts => do
      let (l, _, ts) ← tuple fuel ts
      some (if k.isKey && l.isKey then .key else .compound, true, ts)
    | ts => some (k, false, ts)

def pairs : Nat → List Token → Option (Kind × List Token)
  | 0, _ => none
  | fuel + 1, ts =>
    match ts with
    | .closing '\x7b' :: ts => some (.compound, ts)
    | .comma :: .closing '\x7b' :: ts => some (.compound, ts)
    | .comma :: ts => do
      let (k, ts) ← value fuel ts
      if !k.isKey then none
      else
        match ts with
        | .colon :: ts => do
          let (_, ts) ← value fuel ts
          pairs fuel ts
        | _ => none
    | _ => none

end

def accepts (cs : List Char) : Bool :=
  let ts := do
    let text ← if cs.contains (Char.ofNat 0) then none else content cs
    tokens (text.length + 1) 0 text
  match ts with
  | none => false
  | some ts =>
    match tuple (3 * ts.length + 3) ts with
    | some (_, _, []) => true
    | _ => false

end ApiOutline.Literal
