/-!
Paths of files. A path keeps its upward steps, since what they lead to depends on the disk; empty
steps and steps that stay in place are dropped.
-/
namespace ApiOutline

/-- A path from the root or from the working directory. Two leading slashes, but not three, make a
root of their own. -/
structure Path where
  root : String
  steps : List String
  deriving DecidableEq, Repr

namespace Path

def ofText (s : String) : Path :=
  let slashes := (s.toList.takeWhile (· == '/')).length
  let root := if slashes = 0 then "" else if slashes = 2 then "//" else "/"
  let steps := (s.toList.splitOn '/').map String.ofList
  ⟨root, steps.filter fun p => p != "" && p != "."⟩

def toText (p : Path) : String :=
  if p.root == "" && p.steps.isEmpty then "." else p.root ++ "/".intercalate p.steps

def isAbsolute (p : Path) : Bool := p.root != ""

def child (p : Path) (name : String) : Path := { p with steps := p.steps ++ [name] }

def suffix (p : Path) : String :=
  let name := (p.steps.getLastD "").toList
  let stem := (name.reverse.dropWhile (· != '.')).drop 1
  let ending := (name.reverse.takeWhile (· != '.')).reverse
  if stem.isEmpty || ending.isEmpty then "" else String.ofList ('.' :: ending)

end Path

end ApiOutline
