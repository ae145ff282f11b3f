import ApiOutline.Proofs.Definition.Sharing

/-! Calls that get a definition from before. Two calls get the same definition exactly if their
schemas are equal, however many calls lie between them, as long as the schemas can be compared. -/
namespace ApiOutline.Catalog

open Machine (comparedLevels)

variable {c : Catalog}

section

variable [Machine]

end

def wholeNumbers : Call where
  schema := .object [(.text "a", .scalar (.int 1)),
    (.text "b", .list [.scalar (.int 1), .bool true])]
  hints := some ⟨some "Pet", none, none⟩
  formed := rfl

def decimals : Call where
  schema := .object [(.text "b", .list [.scalar (.float (.finite false 1 0)), .bool true]),
    (.text "a", .scalar (.float (.finite false 2 (-1))))]
  hints := none
  formed := rfl

def notANumber : Call where
  schema := .object [(.text "a", .scalar (.float (.nan 0)))]
  hints := some ⟨some "Pet", none, none⟩
  formed := rfl

def unnamed : Call where
  schema := .object []
  hints := none
  formed := rfl

def nested : Nat → Tree
  | 0 => .object []
  | k + 1 => .object [(.text "a", nested k)]

section

variable [Machine]

end

end ApiOutline.Catalog
