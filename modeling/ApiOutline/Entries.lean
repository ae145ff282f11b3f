/-!
Lists of keys with values in the order in which the keys were first given. Giving a key again
replaces its value and keeps its key and its place.
-/
namespace ApiOutline.Entries

variable {κ α β : Type}

/-- Replaces the value of the first key that the test accepts, or adds the entry at the end. -/
def upsert (hit : κ → Bool) (k : κ) (v : α) : List (κ × α) → List (κ × α)
  | [] => [(k, v)]
  | (k', w) :: rest => if hit k' then (k', v) :: rest else (k', w) :: upsert hit k v rest

def insert [BEq κ] (k : κ) (v : α) (es : List (κ × α)) : List (κ × α) := upsert (· == k) k v es

def get? [BEq κ] (k : κ) (es : List (κ × α)) : Option α := (es.find? (·.1 == k)).map (·.2)

def keys (es : List (κ × α)) : List κ := es.map (·.1)

def mapValues (f : α → β) (es : List (κ × α)) : List (κ × β) := es.map fun (k, v) => (k, f v)

end ApiOutline.Entries
