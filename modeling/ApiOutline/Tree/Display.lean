import ApiOutline.Machine
import ApiOutline.Malformed
import ApiOutline.Tree
import ApiOutline.Number.Shortest
import ApiOutline.Text.Half
import ApiOutline.Text.Printable

/-!
How values are shown inside messages. A text on its own is shown as it is; inside a list or an
object it is quoted, with escapes for the characters that are not shown. A collection inside itself
is shown by dots. Integers with too many digits and values that are too deep cannot be shown.
-/
namespace ApiOutline

open Number Calendar

namespace Text

def escaped (quote c : Char) : String :=
  if c = quote ∨ c = '\\' then String.ofList ['\\', c]
  else if c = '\n' then "\\n"
  else if c = '\r' then "\\r"
  else if c = '\t' then "\\t"
  else if isShown c then String.singleton c
  else if let some unit := half? c then "\\u" ++ hexadecimal 4 unit
  else if c.toNat < 0x100 then "\\x" ++ hexadecimal 2 c.toNat
  else if c.toNat < 0x10000 then "\\u" ++ hexadecimal 4 c.toNat
  else "\\U" ++ hexadecimal 8 c.toNat

def quoted (s : String) : String :=
  let quote := if s.toList.contains '\'' && !s.toList.contains '"' then '"' else '\''
  String.singleton quote ++ String.join (s.toList.map (escaped quote)) ++ String.singleton quote

def quotedBytes (bs : List UInt8) : String :=
  let quote := if bs.contains 39 && !bs.contains 34 then '"' else '\''
  let shown (b : UInt8) : String :=
    if b.toNat < 0x7f then escaped quote (Char.ofNat b.toNat) else "\\x" ++ hexadecimal 2 b.toNat
  "b" ++ String.singleton quote ++ String.join (bs.map shown) ++ String.singleton quote

/-- The decimal text of an integer, if it has not too many digits. -/
def ofInteger? (i : Int) : Option String :=
  if Nat.pow 10 mostDigits ≤ i.natAbs then none else some (toString i)

def fitsWord (i : Int) : Bool := -0x8000000000000000 ≤ i && i < 0x8000000000000000

end Text

namespace Calendar

def Date.shown (d : Date) : String := s!"datetime.date({d.year}, {d.month}, {d.day})"

def shownOffset (o : Int) : String :=
  if o = 0 then "datetime.timezone.utc"
  else
    let seconds := toString ((o * 60) % 86400)
    let span := if o < 0 then "days=-1, seconds=" ++ seconds else "seconds=" ++ seconds
    "datetime.timezone(datetime.timedelta(" ++ span ++ "))"

def Moment.shown (m : Moment) : String :=
  let parts := [m.date.year, m.date.month, m.date.day, m.hour, m.minute]
    ++ (if m.microsecond ≠ 0 then [m.second, m.microsecond]
        else if m.second ≠ 0 then [m.second] else [])
  let zone := (m.offset.map fun o => ", tzinfo=" ++ shownOffset o).getD ""
  "datetime.datetime(" ++ ", ".intercalate (parts.map toString) ++ zone ++ ")"

end Calendar

namespace Scalar

def quoted : Scalar → Except Malformed String
  | .null => .ok "None"
  | .bool b => .ok (if b then "True" else "False")
  | .int i =>
    match Text.ofInteger? i with
    | some s => .ok s
    | none => .error .longInteger
  | .float f => .ok (f.render .plain)
  | .text s => .ok (Text.quoted s)
  | .date d => .ok d.shown
  | .moment m => .ok m.shown
  | .bytes bs => .ok (Text.quotedBytes bs)

def display : Scalar → Except Malformed String
  | .text s => .ok s
  | .date d => .ok d.iso
  | .moment m => .ok (m.stamp " " offsetText)
  | s => s.quoted

end Scalar

namespace Tree

variable [Machine]

def isRepeated (loops : List Nat) (loop : Option Nat) : Bool := loop.any loops.contains

mutual

/-- A value inside the collections of the given numbers, with so many levels to go. -/
def quotedIn (loops : List Nat) (levels : Nat) : Tree → Except Malformed String
  | .scalar s => s.quoted
  | .pair a b =>
    if levels = 0 then .error .tooDeep
    else do
      let first ← quotedIn loops (levels - 1) a
      let second ← quotedIn loops (levels - 1) b
      .ok ("(" ++ first ++ ", " ++ second ++ ")")
  | .set members =>
    if members.isEmpty then .ok "set()"
    else do
      let parts ← (Machine.order members).mapM Scalar.quoted
      .ok ("\x7b" ++ ", ".intercalate parts ++ "\x7d")
  | .list items loop =>
    if isRepeated loops loop then .ok "[...]"
    else if levels = 0 then .error .tooDeep
    else do
      let parts ← quotedItems (loop.toList ++ loops) (levels - 1) items
      .ok ("[" ++ ", ".intercalate parts ++ "]")
  | .object entries loop =>
    if isRepeated loops loop then .ok "\x7b...\x7d"
    else if levels = 0 then .error .tooDeep
    else do
      let parts ← quotedEntries (loop.toList ++ loops) (levels - 1) entries
      .ok ("\x7b" ++ ", ".intercalate parts ++ "\x7d")

def quotedItems (loops : List Nat) (levels : Nat) : List Tree → Except Malformed (List String)
  | [] => .ok []
  | t :: ts => do
    let first ← quotedIn loops levels t
    let rest ← quotedItems loops levels ts
    .ok (first :: rest)

def quotedEntries (loops : List Nat) (levels : Nat) :
    List (Scalar × Tree) → Except Malformed (List String)
  | [] => .ok []
  | (k, v) :: es => do
    let key ← k.quoted
    let value ← quotedIn loops levels v
    let rest ← quotedEntries loops levels es
    .ok ((key ++ ": " ++ value) :: rest)

end

def display : Tree → Except Malformed String
  | .scalar s => s.display
  | t => t.quotedIn [] Machine.shownLevels

end Tree

end ApiOutline
