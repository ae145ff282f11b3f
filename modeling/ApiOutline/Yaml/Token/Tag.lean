import ApiOutline.Yaml.Token
import ApiOutline.Text.Digit

/-!
Directives, anchors and tags of YAML text.
-/
namespace ApiOutline.Yaml.Cursor

def endsOrBlank (c : Cursor) : Bool := endsOr (fun ch => ch = ' ' || isBreak ch) c.rest

def name (fault : Fault) (c : Cursor) : Except Fault (String × Cursor) :=
  match c.span isNameChar with
  | ([], _) => .error fault
  | (cs, c) => .ok (String.ofList cs, c)

def anchorName (c : Cursor) : Except Fault (String × Cursor) := do
  let (name, c) ← c.advance.name .badAnchor
  if endsOr (fun ch => isGap ch || "?:,]\x7d%@".toList.contains ch || ch.toNat == 96) c.rest then
    .ok (name, c)
  else .error .badAnchor

def tagHandle (fault : Fault) (c : Cursor) : Except Fault (String × Cursor) :=
  match c.rest with
  | '!' :: ' ' :: _ => .ok ("!", c.advance)
  | '!' :: _ =>
    let (cs, after) := c.advance.span isNameChar
    if after.peek? = some '!' then .ok (String.ofList ('!' :: cs ++ ['!']), after.advance)
    else .error fault
  | _ => .error fault

def escapedBytes (fault : Fault) : Nat → List UInt8 → Cursor → Except Fault (List UInt8 × Cursor)
  | 0, bytes, c => .ok (bytes.reverse, c)
  | fuel + 1, bytes, c =>
    match c.rest with
    | '%' :: a :: b :: _ =>
      match Text.natural? 16 [a, b] with
      | some n => escapedBytes fault fuel (n.toUInt8 :: bytes) (c.advanceBy 3)
      | none => .error fault
    | '%' :: _ => .error fault
    | _ => .ok (bytes.reverse, c)

def tagTextFrom (fault : Fault) : Nat → List Char → Cursor → Except Fault (List Char × Cursor)
  | 0, text, c => .ok (text, c)
  | fuel + 1, text, c =>
    match c.rest with
    | '%' :: _ => do
      let (bytes, c) ← escapedBytes fault c.left [] c
      match String.fromUTF8? ⟨bytes.toArray⟩ with
      | some s => tagTextFrom fault fuel (text ++ s.toList) c
      | none => .error fault
    | ch :: _ =>
      if isTagChar ch then
        let (cs, c) := c.span isTagChar
        tagTextFrom fault fuel (text ++ cs) c
      else .ok (text, c)
    | [] => .ok (text, c)

def tagText (fault : Fault) (c : Cursor) : Except Fault (String × Cursor) := do
  let (text, after) ← tagTextFrom fault (c.left + 1) [] c
  if after.index = c.index then .error fault else .ok (String.ofList text, after)

def tag (c : Cursor) : Except Fault (Option String × String × Cursor) := do
  let (handle, suffix, c) ← match c.rest with
    | '!' :: '<' :: _ => do
      let (text, c) ← (c.advanceBy 2).tagText .badTag
      if c.peek? = some '>' then .ok (none, text, c.advance) else .error .badTag
    | _ =>
      if endsOr isGap c.rest.tail then .ok (none, "!", c.advance)
      else
        let word := c.rest.tail.takeWhile fun ch => !(ch = ' ' || isBreak ch)
        let (handle, c) ← if word.contains '!' then c.tagHandle .badTag else .ok ("!", c.advance)
        let (text, c) ← c.tagText .badTag
        .ok (some handle, text, c)
  if c.endsOrBlank then .ok (handle, suffix, c) else .error .badTag

def versionNumber (c : Cursor) : Except Fault (Nat × Cursor) :=
  match c.span Char.isDigit with
  | ([], _) => .error .badDirective
  | (cs, c) => .ok (Text.ofDigits 10 (cs.map fun d => d.toNat - 48), c)

def directive (c : Cursor) : Except Fault (Token × Cursor) := do
  let (name, c) ← c.advance.name .badDirective
  if !c.endsOrBlank then .error .badDirective
  else
    let (token, c) ←
      if name = "YAML" then do
        let (major, c) ← (c.skip (· = ' ')).versionNumber
        if c.peek? ≠ some '.' then .error .badDirective
        else
          let (_, c) ← c.advance.versionNumber
          if c.endsOrBlank then .ok (Token.version major, c) else .error .badDirective
      else if name = "TAG" then do
        let (handle, c) ← (c.skip (· = ' ')).tagHandle .badDirective
        if c.peek? ≠ some ' ' then .error .badDirective
        else
          let (text, c) ← (c.skip (· = ' ')).tagText .badDirective
          if c.endsOrBlank then .ok (Token.handle handle text, c) else .error .badDirective
      else .ok (Token.directive, c.skip (!isBreak ·))
    let c ← c.endOfLine .badDirective
    .ok (token, c)

end ApiOutline.Yaml.Cursor
