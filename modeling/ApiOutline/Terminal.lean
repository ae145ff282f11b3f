import ApiOutline.Json.Writer
import ApiOutline.Log
import ApiOutline.Surroundings
import ApiOutline.Terminal.Layout
import ApiOutline.Terminal.Markup

/-!
What a run shows. Its results go to standard output, everything else to standard error. Quiet runs
leave out information, but never warnings and errors.
-/
namespace ApiOutline

inductive Format where
  | json
  | plain
  | rich
  deriving DecidableEq, Repr

def Format.word : Format → String
  | .json => "json"
  | .plain => "plain"
  | .rich => "rich"

/-- The format that a word asks for; `auto` leaves the choice to the terminal. -/
def Format.ofWord? : String → Option (Option Format)
  | "auto" => some none
  | "json" => some (some .json)
  | "plain" => some (some .plain)
  | "rich" => some (some .rich)
  | _ => none

/-- Texts on standard output and on standard error. -/
structure Screen where
  output : String
  errors : String
  deriving DecidableEq, Repr

namespace Screen

def empty : Screen := ⟨"", ""⟩

def append (a b : Screen) : Screen := ⟨a.output ++ b.output, a.errors ++ b.errors⟩

instance : Append Screen := ⟨append⟩

def line (text : String) : Screen := ⟨text ++ "\n", ""⟩

def aside (text : String) : Screen := ⟨"", text ++ "\n"⟩

end Screen

/-- What is shown, and the failure that ended it if there was one. -/
structure Shown where
  screen : Screen
  failure : Option Failure

namespace Shown

def ofExcept : Except Failure Screen → Shown
  | .ok screen => ⟨screen, none⟩
  | .error f => ⟨Screen.empty, some f⟩

def andThen (first more : Shown) : Shown :=
  if first.failure.isSome then first else ⟨first.screen ++ more.screen, more.failure⟩

def all (parts : List (Except Failure Screen)) : Shown :=
  parts.foldr (fun part rest => (ofExcept part).andThen rest) ⟨Screen.empty, none⟩

end Shown

structure Terminal where
  format : Format
  hasColor : Bool
  isQuiet : Bool
  width : Nat
  writes : Char → Bool
  painter : Painter

namespace Terminal

variable [Machine]

/-- Colour is allowed unless a variable of that name is set, whatever its value, or the terminal
cannot show it. -/
def allowsColor (s : Surroundings) : Bool :=
  (s.value? "NO_COLOR").isNone && s.value? "TERM" != some "dumb"

def sizeOf (s : Surroundings) (name : String) (usual : Nat) : Except Malformed Nat :=
  let text := ((s.value? name).getD "").toList
  if text.isEmpty || !text.all Text.showsDigit then .ok usual
  else
    match Text.boundedInteger? 10 text with
    | some n => .ok n.toNat
    | none => .error .badSize

def ofSurroundings (s : Surroundings) (asked : Option Format) (noColor isQuiet : Bool) :
    Except Failure Terminal := do
  let hasColor := !noColor && allowsColor s
  let width ← sizeOf s "COLUMNS" 80
  let _ ← sizeOf s "LINES" 25
  .ok
    { format := asked.getD (if s.isTerminal && hasColor then .rich else .plain)
      hasColor
      isQuiet
      width
      writes := s.writes
      painter := s.painter }

def styled (style text : String) : String := "[" ++ style ++ "]" ++ text ++ "[/" ++ style ++ "]"

def laidOut (width : Nat) (message : String) : Except Malformed String := do
  .ok (String.ofList (Layout.shown width (← Markup.text message.toList)))

/-- A message beside the results: as it is, or laid out without its tags where colour is allowed. -/
def say (t : Terminal) (plain tagged : String) : Except Failure Screen := do
  if t.hasColor then .ok ⟨"", ← laidOut t.width tagged⟩ else .ok (Screen.aside plain)

def info (t : Terminal) (message : String) : Except Failure Screen :=
  if t.isQuiet then .ok Screen.empty else t.say message message

def success (t : Terminal) (message : String) : Except Failure Screen :=
  if t.isQuiet then .ok Screen.empty else t.say message (styled "green" message)

def warning (t : Terminal) (message : String) : Except Failure Screen :=
  t.say ("Warning: " ++ message) (styled "yellow" "Warning:" ++ " " ++ message)

def error (t : Terminal) (message : String) : Except Failure Screen :=
  t.say ("Error: " ++ message) (styled "bold red" "Error:" ++ " " ++ message)

/-- A text on standard output, which has to be able to write all of it. -/
def put (t : Terminal) (text : String) : Except Failure Screen :=
  if text.toList.all t.writes then .ok ⟨text, ""⟩ else .error (.malformed .unwritable)

def line (t : Terminal) (text : String) : Except Failure Screen := t.put (text ++ "\n")

def json (t : Terminal) (tree : Tree) : Except Failure Screen := do
  let text ← Json.pretty tree
  if t.format = .rich then t.put (← t.painter.json t.hasColor text) else t.line text

/-- The row of a table as an object. Of equal headers the last one counts. -/
def rowObject (headers row : List String) : Tree :=
  .object (Object.ofEntries ((headers.zip row).map fun (h, v) => (.text h, .text v)))

/-- A table: a list of objects, lines of columns with tabs between them, which are written one by
one, or a drawing. -/
def table (t : Terminal) (title : String) (headers : List String) (rows : List (List String)) :
    Shown :=
  match t.format with
  | .json => .ofExcept (t.json (.list (rows.map (rowObject headers))))
  | .plain => .all ((headers :: rows).map fun row => t.line ("\t".intercalate row))
  | .rich => .ofExcept do t.put (← t.painter.table t.hasColor title headers rows)

/-- A note of a run. Only verbose runs show what is less than a warning. -/
def note (t : Terminal) (isVerbose : Bool) (n : Note) : Except Failure Screen :=
  if Level.error.rank ≤ n.level.rank then t.error n.message
  else if Level.warning.rank ≤ n.level.rank then t.warning n.message
  else if isVerbose then t.info n.message
  else .ok Screen.empty

def bareNote (n : Note) : Screen :=
  if Level.warning.rank ≤ n.level.rank then Screen.aside n.message else Screen.empty

def notes (t : Terminal) (isVerbose : Bool) (ns : List Note) : Shown :=
  .all (ns.map (t.note isVerbose))

end Terminal

end ApiOutline
