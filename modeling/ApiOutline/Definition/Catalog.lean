import ApiOutline.Definition.Registry
import ApiOutline.Log
import ApiOutline.Tree.Same

/-!
The data definitions of an outline. Payloads whose schemas are structurally equal share one
definition, the one that the first of them was given.
-/
namespace ApiOutline

/-- A named schema, with its place in the catalog. The name for input is derived from the name. -/
structure Definition where
  index : Nat
  schema : Tree
  objectName : String
  inputName : String

structure Catalog where
  definitions : List Definition
  names : Registry

namespace Catalog

variable [Machine]

def inputSuffix : String := "Input"

def empty : Catalog := ⟨[], Registry.empty⟩

/-- The first definition with a schema equal to the given one. The comparisons up to it must come to
an end. -/
def findIn (schema : Tree) : List Definition → Except Malformed (Option Definition)
  | [] => .ok none
  | d :: ds => do
    if ← schema.compare d.schema then .ok (some d) else findIn schema ds

def find (c : Catalog) (schema : Tree) : Except Malformed (Option Definition) :=
  findIn schema c.definitions

end Catalog

/-- Work on a catalog, one step at a time. What was written before a failure stays written. -/
def Session (α : Type) : Type := Catalog → Logged α × Catalog

namespace Session

variable [Machine]
variable {α β : Type}

def ofLogged (x : Logged α) : Session α := fun c => (x, c)

def read : Session Catalog := fun c => (.ok c, c)

def write (c : Catalog) : Session Unit := fun _ => (.ok (), c)

def bind (x : Session α) (f : α → Session β) : Session β := fun c =>
  match x c with
  | (⟨notes, .ok a⟩, c) =>
    let (y, c) := f a c
    (⟨notes ++ y.notes, y.result⟩, c)
  | (⟨notes, .error e⟩, c) => (⟨notes, .error e⟩, c)

instance : Monad Session where
  pure a := ofLogged (.ok a)
  bind := bind

instance : MonadLift Logged Session := ⟨ofLogged⟩

def name (hints : Option Hints) : Session String := do
  let c ← read
  let raw ← Logged.ofExcept (c.names.proposal hints)
  let (name, names) := c.names.register raw
  write { c with names }
  pure name

def create (schema : Tree) (hints : Option Hints) : Session Definition := do
  let name ← name hints
  let c ← read
  let d : Definition := ⟨c.definitions.length, schema, name, name ++ Catalog.inputSuffix⟩
  write { c with definitions := c.definitions ++ [d] }
  Logged.debug s!"Created data definition '{d.objectName}'"
  pure d

/-- The definition for a schema; a new one if no earlier schema is equal. Hints are looked at only
for a new one, and null is no schema. -/
def assign (schema : Tree) (hints : Option Hints) : Session (Option Definition) :=
  if schema.isNull then pure none
  else do
    let c ← read
    match c.find schema with
    | .error what => Logged.fail (.malformed what)
    | .ok (some d) => do
      Logged.debug s!"Reusing data definition '{d.objectName}'"
      pure (some d)
    | .ok none => do
      let d ← create schema hints
      pure (some d)

end Session

/-- A way to give definitions to schemas: what a schema with hints gets in a catalog, and the
catalog that it belongs to. -/
abbrev Assigning := Catalog → Tree → Option Hints → Logged (Option Definition × Catalog)

def Catalog.assign [Machine] (c : Catalog) (schema : Tree) (hints : Option Hints) :
    Logged (Option Definition × Catalog) :=
  let (answer, c) := Session.assign schema hints c
  (·, c) <$> answer

end ApiOutline
