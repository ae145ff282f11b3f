import ApiOutline.Tree.Display

/-!
Writing a document as JSON text over several lines, two blanks for each level. Characters outside
ASCII stay as they are, numbers that are not finite are written as words, and days, moments, bytes
and sets as the text they are shown with. An object with a day, a moment or bytes as a key cannot be
written, nor can a collection that contains itself.
-/
namespace ApiOutline.Json

open Number

variable [Machine]

def escapedChar (c : Char) : List Char :=
  if c = '"' then ['\\', '"']
  else if c = '\\' then ['\\', '\\']
  else if c = '\n' then ['\\', 'n']
  else if c = '\r' then ['\\', 'r']
  else if c = '\t' then ['\\', 't']
  else if c.toNat = 8 then ['\\', 'b']
  else if c.toNat = 12 then ['\\', 'f']
  else if c.toNat < 32 then '\\' :: 'u' :: (Text.hexadecimal 4 c.toNat).toList
  else [c]

def writeText (s : String) : String :=
  String.ofList ('"' :: s.toList.flatMap escapedChar ++ ['"'])

def writeScalar : Scalar → Except Malformed String
  | .null => .ok "null"
  | .bool b => .ok (if b then "true" else "false")
  | .float f => .ok (f.render .worded)
  | .text s => .ok (writeText s)
  | .int i => (Scalar.int i).display
  | s => s.display.map writeText

/-- The text of a key; keys that are not text are written like values, in quotes. -/
def keyText : Scalar → Except Malformed String
  | .date _ => .error .unwritableKey
  | .moment _ => .error .unwritableKey
  | .bytes _ => .error .unwritableKey
  | .text s => .ok s
  | s => writeScalar s

def newline (level : Nat) : String :=
  "\n" ++ String.ofList (List.replicate (2 * level) ' ')

def bracketed (opening closing : String) (level : Nat) (parts : List String) : String :=
  opening ++ ",".intercalate parts ++ newline level ++ closing

mutual

/-- Writes a value whose first line stands at the given level, inside the collections of the given
numbers. -/
def write (loops : List Nat) (level : Nat) : Tree → Except Malformed String
  | .scalar s => writeScalar s
  | .set members => (Tree.display (.set members)).map writeText
  | .pair a b =>
    if Machine.writtenLevels ≤ level then .error .tooDeep
    else do
      let first ← write loops (level + 1) a
      let second ← write loops (level + 1) b
      .ok (bracketed "[" "]" level ([first, second].map (newline (level + 1) ++ ·)))
  | .list items loop =>
    if items.isEmpty then .ok "[]"
    else if Tree.isRepeated loops loop then .error .cyclic
    else if Machine.writtenLevels ≤ level then .error .tooDeep
    else (writeItems (loop.toList ++ loops) (level + 1) items).map (bracketed "[" "]" level)
  | .object entries loop =>
    if entries.isEmpty then .ok "\x7b\x7d"
    else if Tree.isRepeated loops loop then .error .cyclic
    else if Machine.writtenLevels ≤ level then .error .tooDeep
    else
      (writeEntries (loop.toList ++ loops) (level + 1) entries).map (bracketed "\x7b" "\x7d" level)

def writeItems (loops : List Nat) (level : Nat) : List Tree → Except Malformed (List String)
  | [] => .ok []
  | t :: ts => do
    let first ← write loops level t
    let rest ← writeItems loops level ts
    .ok ((newline level ++ first) :: rest)

def writeEntries (loops : List Nat) (level : Nat) :
    List (Scalar × Tree) → Except Malformed (List String)
  | [] => .ok []
  | (k, v) :: es => do
    let key ← keyText k
    let first ← write loops level v
    let rest ← writeEntries loops level es
    .ok ((newline level ++ writeText key ++ ": " ++ first) :: rest)

end

def pretty (t : Tree) : Except Malformed String := write [] 0 t

end ApiOutline.Json
