import ApiOutline.Yaml.Shape
import ApiOutline.Tree

/-!
The document that a YAML text writes. A node that does not lead back to itself becomes one value,
however many collections share it. Nodes that lead into a circle are unrolled: each layer of values
is made of the one below it, and there are more layers than any walk through the document can tell.
-/
namespace ApiOutline.Yaml

abbrev Values := Array (Option Tree)

def Shape.value? (known : Values) (loop : Option Nat) : Shape → Option Tree
  | .scalar s => some (.scalar s)
  | .set members => some (.set members)
  | .list items => (items.mapM fun n => known[n]?.join).map fun ts => .list ts loop
  | .pairs items =>
    (items.mapM fun (p : Nat × Nat) => do
      let first ← known[p.1]?.join
      let second ← known[p.2]?.join
      some (Tree.pair first second)).map fun ts => .list ts loop
  | .object entries =>
    (entries.mapM fun (e : Scalar × Nat) => (known[e.2]?.join).map (e.1, ·)).map fun es =>
      .object es loop

namespace Values

def learn (shapes : Array (Option Shape)) (known : Values) (n : Nat) : Values :=
  if (known[n]?.join).isSome then known
  else known.setIfInBounds n ((shapes[n]?.join).bind (Shape.value? known none))

def count (known : Values) : Nat := known.countP Option.isSome

/-- Learns values, later nodes first, until no more can be learnt. Each round but the last one adds
a value. -/
def settle (shapes : Array (Option Shape)) : Nat → Values → Values
  | 0, known => known
  | fuel + 1, known =>
    let before := known.count
    let known := (List.range shapes.size).reverse.foldl (learn shapes) known
    if known.count = before then known else settle shapes fuel known

/-- One more layer of the values of nodes that lead into a circle. -/
def layer (shapes : Array (Option Shape)) (circular : List Nat) (below : Values) : Values :=
  circular.foldl (fun values n =>
    values.setIfInBounds n ((shapes[n]?.join).bind (Shape.value? below (some n)))) below

def layers (shapes : Array (Option Shape)) (circular : List Nat) : Nat → Values → Values
  | 0, below => below
  | n + 1, below => layers shapes circular n (layer shapes circular below)

end Values

/-- The most slashes in a text of a document; a reference has not more steps. -/
def Graph.mostSlashes (g : Graph) : Nat :=
  g.foldl (fun most node =>
    match node with
    | .scalar _ text => max most (text.toList.count '/')
    | _ => most) 0

def leastLayers : Nat := 1000

def Graph.value (g : Graph) (root : Nat) : Except Fault Tree := do
  let shapes ← g.shapes root
  let known := Values.settle shapes (shapes.size + 1) (Array.replicate shapes.size none)
  match known[root]?.join with
  | some t => .ok t
  | none =>
    let circular := (List.range shapes.size).filter fun n =>
      (shapes[n]?.join).isSome && (known[n]?.join).isNone
    let bottom := circular.foldl (fun values n => values.setIfInBounds n (some .null)) known
    let values := Values.layers shapes circular (leastLayers + g.mostSlashes) bottom
    .ok ((values[root]?.join).getD .null)

def read [Machine] (text : List Char) : Except Fault Tree := do
  match ← Node.ofText text with
  | none => .ok .null
  | some (root, g) => g.value root

end ApiOutline.Yaml
