import ApiOutline.Terminal.Width
import ApiOutline.Text.Blank

/-!
Text on a screen of so many columns. Tabs are filled up with spaces, lines are broken between words,
and words that are too long for a line inside.
-/
namespace ApiOutline.Layout

open Width

def tabStop : Nat := 8

/-- Puts the parts of a line between tabs together. A tab is at least one space, and fills up to the
next stop. -/
def joinTabs (column : Nat) : List (List Char) → List Char
  | [] => []
  | [part] => part
  | part :: rest =>
    let column := column + extent (part ++ [' '])
    let fill := (tabStop - column % tabStop) % tabStop
    part ++ ' ' :: List.replicate fill ' ' ++ joinTabs (column + fill) rest

def expandTabs (line : List Char) : List Char := joinTabs 0 (line.splitOn '\t')

/-- The words of a line, each with the blanks after it, the first one also with those before it.
A line of blanks has none. -/
def words (line : List Char) : List (List Char) :=
  match line.splitBy fun a b => !Text.isBlank a || Text.isBlank b with
  | first :: rest =>
    if first.all Text.isBlank then
      match rest with
      | [] => []
      | second :: rest => (first ++ second) :: rest
    else first :: rest
  | [] => []

def trimEnd (cs : List Char) : List Char := (cs.reverse.dropWhile Text.isBlank).reverse

/-- Lines that are being filled with words: the full ones, the last one first, and the one that is
being filled, with the columns that are taken in it. -/
structure Filling where
  full : List (List Char)
  line : List Char
  taken : Nat

namespace Filling

def start : Filling := ⟨[], [], 0⟩

def next (f : Filling) : Filling :=
  if f.full.isEmpty && f.line.isEmpty then f else ⟨f.line :: f.full, [], 0⟩

def place (f : Filling) (text : List Char) : Filling :=
  { f.next with line := text, taken := extent text }

/-- Adds a word: to the line if it fits without the blanks after it, in parts if it fits no line,
and else to the next line. -/
def add (limit : Nat) (f : Filling) (word : List Char) : Filling :=
  let size := extent (trimEnd word)
  if f.taken + size ≤ limit then
    { f with line := f.line ++ word, taken := f.taken + extent word }
  else if limit < size then (parts limit word).foldl place f
  else f.place word

def lines (f : Filling) : List (List Char) := (f.line :: f.full).reverse

end Filling

def broken (limit : Nat) (line : List Char) : List (List Char) :=
  match words line with
  | [] => [line]
  | ws => (ws.foldl (Filling.add limit) Filling.start).lines

def cropped (limit : Nat) (line : List Char) : List Char :=
  let blanks := line.length - (trimEnd line).length
  let line := line.take (line.length - min blanks (line.length - limit))
  if extent line ≤ limit then line else fitting limit (clusters line)

def lines (limit : Nat) (text : List Char) : List (List Char) :=
  (text.splitOn '\n').flatMap fun line =>
    (broken limit (expandTabs line)).map (cropped limit)

def shown (limit : Nat) (text : List Char) : List Char :=
  if limit = 0 then [] else (lines limit text).flatMap (· ++ ['\n'])

end ApiOutline.Layout
