import ApiOutline.Proofs.Log
import ApiOutline.Terminal

/-! What a terminal shows where colour is not allowed. Results are the same for all terminals of one
format, and beside them there are lines of four tones, of which a quiet terminal leaves out two.
Only results can fail to be shown, where standard output cannot write a character. -/
namespace ApiOutline

inductive Tone where
  | info
  | success
  | warning
  | error
  deriving DecidableEq

structure Line where
  tone : Tone
  message : String
  deriving DecidableEq

namespace Line

def isEssential (l : Line) : Bool := l.tone = .warning || l.tone = .error

def shown (l : Line) : String :=
  match l.tone with
  | .info => l.message ++ "\n"
  | .success => l.message ++ "\n"
  | .warning => "Warning: " ++ l.message ++ "\n"
  | .error => "Error: " ++ l.message ++ "\n"

def text (ls : List Line) : String := String.join (ls.map shown)

def heard (isQuiet : Bool) (ls : List Line) : List Line :=
  if isQuiet then ls.filter isEssential else ls

end Line

def Note.line (n : Note) : Line :=
  { tone := if Level.error.rank ≤ n.level.rank then .error
      else if Level.warning.rank ≤ n.level.rank then .warning else .info
    message := n.message }

def Note.lines (isVerbose : Bool) (notes : List Note) : List Line :=
  (notes.map Note.line).filter fun l => isVerbose || l.isEssential

def Screen.asides (isQuiet : Bool) (ls : List Line) : Screen :=
  ⟨"", Line.text (Line.heard isQuiet ls)⟩

theorem Screen.append_assoc (a b c : Screen) : a ++ b ++ c = a ++ (b ++ c) := by
  show (⟨a.output ++ b.output ++ c.output, a.errors ++ b.errors ++ c.errors⟩ : Screen) =
    ⟨a.output ++ (b.output ++ c.output), a.errors ++ (b.errors ++ c.errors)⟩
  rw [String.append_assoc, String.append_assoc]

namespace Terminal

variable {t : Terminal} (colorless : t.hasColor = false)
include colorless

end Terminal

/-! ### Results -/

def Screen.results (text : String) : Screen := ⟨text, ""⟩

namespace Shown

end Shown

namespace Terminal

def colorless (s : Surroundings) (format : Format) (isQuiet : Bool) (width : Nat) : Terminal :=
  ⟨format, false, isQuiet, width, s.writes, s.painter⟩

def bare (s : Surroundings) (format : Format) : Terminal := colorless s format true 0

def rowText (row : List String) : String := "\t".intercalate row ++ "\n"

/-- An output that holds the rows before one with a character that cannot be written. -/
def Breaks (writes : Char → Bool) (rows : List (List String)) (output : String) : Prop :=
  ∃ written row rest, rows = written ++ row :: rest ∧
    output = String.join (written.map rowText) ∧ ∃ ch ∈ (rowText row).toList, writes ch = false

section

variable [Machine]

end

def size (s : Surroundings) : Except Failure Nat := do
  let width ← sizeOf s "COLUMNS" 80
  let _ ← sizeOf s "LINES" 25
  .ok width

end Terminal

end ApiOutline
