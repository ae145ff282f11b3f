import ApiOutline.Terminal.Emoji
import ApiOutline.Terminal.Literal
import ApiOutline.Terminal.Style
import ApiOutline.Text.Word

/-!
Messages with tags. A tag in brackets opens a style or closes one; a backslash before a tag makes it
text. Where no style can be shown the tags are dropped, but each closing tag must still have an
opening one.
-/
namespace ApiOutline.Markup

inductive Piece where
  | text (cs : List Char)
  | tag (name : List Char) (value : Option (List Char))

def tag? (cs : List Char) : Option (List Char × List Char) :=
  match cs with
  | [] => none
  | first :: _ =>
    let body := cs.takeWhile (· != ']')
    let starts := first.isLower || first = '#' || first = '/' || first = '@'
    if starts && body.length < cs.length then some (body, cs.drop (body.length + 1)) else none

def tagOf (body : List Char) : Piece :=
  let name := body.takeWhile (· != '=')
  .tag name (if name.length < body.length then some (body.drop (name.length + 1)) else none)

/-- The text before a tag, and the tag. Of the backslashes before it half are kept, and an odd one
makes it text. -/
def beforeTag (before body : List Char) : List Piece :=
  let slashes := (before.reverse.takeWhile (· == '\\')).length
  let marked :=
    if slashes % 2 = 1 then .text ('[' :: body ++ [']']) else tagOf body
  [.text (before.take (before.length - slashes)), .text (List.replicate (slashes / 2) '\\'), marked]

/-- The pieces of a message whose parts between opening brackets are given; `before` is the text
since the last tag. -/
def piecesAfter (before : List Char) : List (List Char) → List Piece
  | [] => [.text before]
  | part :: rest =>
    match tag? part with
    | some (body, after) => beforeTag before body ++ piecesAfter after rest
    | none => piecesAfter (before ++ '[' :: part) rest

def pieces (message : List Char) : List Piece :=
  match message.splitOn '[' with
  | [] => []
  | first :: rest => piecesAfter first rest

def unescape : List Char → List Char
  | '\\' :: '[' :: cs => '[' :: unescape cs
  | c :: cs => c :: unescape cs
  | [] => []

def variant (name : List Char) : List Char × List Char :=
  let ends (word : String) : Bool := word.toList.isSuffixOf name
  let without (word : String) : List Char := name.take (name.length - word.length)
  if ends "-emoji" then (without "-emoji", [Char.ofNat 0xfe0f])
  else if ends "-text" then (without "-text", [Char.ofNat 0xfe0e])
  else (name, [])

def pictured (name : List Char) : List Char :=
  let (base, selector) := variant name
  match Emoji.picture? (Text.lower base) with
  | some picture => picture ++ selector
  | none => ':' :: name ++ [':']

def picturesAfter : List (List Char) → List Char
  | [] => []
  | [last] => ':' :: last
  | name :: next :: rest =>
    if name.any Text.isBlank then ':' :: name ++ picturesAfter (next :: rest)
    else pictured name ++ next ++ picturesAfter rest

def withPictures (cs : List Char) : List Char :=
  match cs.splitOn ':' with
  | [] => []
  | first :: rest => first ++ picturesAfter rest

def movesCursor (c : Char) : Bool := [7, 8, 11, 12, 13].contains c.toNat

def shownText (cs : List Char) : List Char :=
  (withPictures (unescape cs)).filter (!movesCursor ·)

structure Open where
  style : String
  value : Option (List Char)

def isActionPart (c : Char) : Bool := Text.isWord c || c = '.'

/-- Whether a value names an action, with its arguments in brackets if it has any, or is a list of
arguments itself. -/
def isAction (value : List Char) : Bool :=
  let text := Text.trimWhere Text.isBlank value
  let arguments := text.dropWhile isActionPart
  if arguments.isEmpty then true
  else if arguments.head? = some '(' && arguments.getLast? = some ')'
      && !arguments.contains '\n' then
    Literal.accepts arguments
  else Literal.accepts text

/-- A style that is on for some text. Its value belongs to it, but only what mixes a colour
wrongly is an error. -/
def Open.check (o : Open) : Except Malformed Unit := do
  let value := (o.value.map (' ' :: ·)).getD []
  let _ ← Style.ofText (o.style.toList ++ value)

def Open.close (o : Open) : Except Malformed Unit :=
  if o.style.front? = some '@' then
    if (o.value.getD []).isEmpty || isAction (o.value.getD []) then .ok ()
    else .error .tagMismatch
  else o.check

def take? (style : String) : List Open → Option (Open × List Open)
  | [] => none
  | o :: opened =>
    if o.style = style then some (o, opened)
    else (take? style opened).map fun (found, rest) => (found, o :: rest)

def follow (opened : List Open) (name : List Char) (value : Option (List Char)) :
    Except Malformed (List Open) :=
  match name with
  | '/' :: closing => do
    let closing := Text.trimWhere Text.isBlank closing
    let found ←
      if closing.isEmpty then .ok (opened.head?.map fun o => (o, opened.drop 1))
      else (Style.normalForm closing).map (take? · opened)
    match found with
    | none => .error .tagMismatch
    | some (o, opened) => do
      o.close
      .ok opened
  | name => do .ok (⟨← Style.normalForm name, value⟩ :: opened)

def textAfter (opened : List Open) : List Piece → Except Malformed (List Char)
  | [] => do
    opened.forM Open.check
    .ok []
  | .text cs :: rest => do .ok (shownText cs ++ (← textAfter opened rest))
  | .tag name value :: rest => do textAfter (← follow opened name value) rest

def text (message : List Char) : Except Malformed (List Char) := textAfter [] (pieces message)

end ApiOutline.Markup
