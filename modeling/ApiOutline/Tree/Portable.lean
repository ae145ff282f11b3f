import ApiOutline.Tree.Display

/-!
Values in the form that plain JSON can hold: dates and bytes as text, pairs and sets as lists,
numbers that are not finite as null, and every key of an object as a text. Two keys of one text
keep the first place and the last value. A value of too many levels, as one that contains itself,
has no such form.
-/
namespace ApiOutline

open Number

def Text.decoded (bs : List UInt8) : Except Malformed String :=
  match String.fromUTF8? ⟨bs.toArray⟩ with
  | some s => .ok s
  | none => .error .notUtf8

def Scalar.portable : Scalar → Except Malformed Scalar
  | .float f => .ok (if f.isFinite then .float f else .null)
  | .date d => .ok (.text d.iso)
  | .moment m => .ok (.text m.zulu)
  | .bytes bs => (Text.decoded bs).map .text
  | s => .ok s

def Scalar.portableKey : Scalar → Except Malformed String
  | .null => .ok "None"
  | .bool b => .ok (if b then "true" else "false")
  | .int i =>
    match Text.ofInteger? i with
    | some s => .ok s
    | none => .error .longInteger
  | .float f => .ok (if f.isFinite then f.render .plain else "None")
  | .text s => .ok s
  | .date d => .ok d.iso
  | .moment m => .ok m.zulu
  | .bytes bs => Text.decoded bs

namespace Tree

variable [Machine]

def portableLevels : Nat := 255

mutual

def portableIn (levels : Nat) : Tree → Except Malformed Tree
  | .scalar s => s.portable.map .scalar
  | .pair a b =>
    if levels = 0 then .error .cyclic
    else do
      let first ← portableIn (levels - 1) a
      let second ← portableIn (levels - 1) b
      .ok (.list [first, second])
  | .set members => do
    let items ← (Machine.order members).mapM Scalar.portable
    .ok (.list (items.map .scalar))
  | .list items _ =>
    if levels = 0 then .error .cyclic
    else do
      let items ← portableItems (levels - 1) items
      .ok (.list items)
  | .object entries _ =>
    if levels = 0 then .error .cyclic
    else do
      let entries ← portableEntries (levels - 1) entries
      .ok (.object (Object.ofEntries entries))

def portableItems (levels : Nat) : List Tree → Except Malformed (List Tree)
  | [] => .ok []
  | t :: ts => do
    let first ← portableIn levels t
    let rest ← portableItems levels ts
    .ok (first :: rest)

def portableEntries (levels : Nat) :
    List (Scalar × Tree) → Except Malformed (List (Scalar × Tree))
  | [] => .ok []
  | (k, v) :: es => do
    let key ← k.portableKey
    let value ← portableIn levels v
    let rest ← portableEntries levels es
    .ok ((.text key, value) :: rest)

end

def portable (t : Tree) : Except Malformed Tree := t.portableIn portableLevels

end Tree

end ApiOutline
