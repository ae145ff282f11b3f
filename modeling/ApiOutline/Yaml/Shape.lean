import ApiOutline.Entries
import ApiOutline.Yaml.Merge
import ApiOutline.Yaml.Scalar

/-!
What the nodes of a YAML document stand for, each on its own: a scalar, or a collection that names
the nodes in it. Collections are filled one after the other, the outer ones before the inner ones;
the first fault on this way is the fault of the document.
-/
namespace ApiOutline.Yaml

inductive Shape where
  | scalar (s : Scalar)
  | set (members : List Scalar)
  | list (items : List Nat)
  | pairs (items : List (Nat × Nat))
  | object (entries : List (Scalar × Nat))
  deriving Inhabited

/-- A document on the way: its nodes, the number of their merge keys, the shapes of the nodes that
were come to, and the collections that are still to be filled, latest first. -/
structure Shaping where
  graph : Graph
  merges : Nat
  shapes : Array (Option Shape)
  waiting : List Nat

namespace Shaping

def start (g : Graph) : Shaping := ⟨g, g.mergeCount, Array.replicate g.size none, []⟩

def shape? (b : Shaping) (n : Nat) : Option Shape := b.shapes[n]?.join

def withShape (b : Shaping) (n : Nat) (s : Shape) : Shaping :=
  { b with shapes := b.shapes.setIfInBounds n (some s) }

def wait (b : Shaping) (n : Nat) (s : Shape) : Shaping :=
  { b.withShape n s with waiting := n :: b.waiting }

/-- The text of a scalar, or of the value of a mapping's default key. No way to it is longer than
the row of nodes, unless it has no end. -/
def textOf (g : Graph) : Nat → Nat → Except Fault String
  | 0, _ => .error (.unprepared .tooDeep)
  | fuel + 1, n =>
    match g.node n with
    | .scalar _ text => .ok text
    | .mapping _ pairs =>
      match pairs.find? fun (k, _) => (g.node k).tag = .value with
      | some (_, v) => textOf g fuel v
      | none => .error .wrongKind
    | .sequence _ _ => .error .wrongKind

def scalarOf (b : Shaping) (n : Nat) : Except Fault Scalar := do
  let tag := (b.graph.node n).tag
  let text ← textOf b.graph (b.graph.size + 1) n
  if tag = .timestamp ∧ b.graph.isMapping n then .error (.unprepared .bytesForText)
  else tag.read (n + 1) text

def visit (b : Shaping) (n : Nat) : Except Fault Shaping :=
  if (b.shape? n).isSome then .ok b
  else
    match (b.graph.node n).tag with
    | .sequence => .ok (b.wait n (.list []))
    | .mapping => .ok (b.wait n (.object []))
    | .set => .ok (b.wait n (.set []))
    | .pairs => .ok (b.wait n (.pairs []))
    | .merge => .error .unknownTag
    | .value => .error .unknownTag
    | .unknown => .error .unknownTag
    | _ => do
      let s ← b.scalarOf n
      .ok (b.withShape n (.scalar s))

def visitEntry (b : Shaping) (entry : Nat × Nat) : Except Fault (Shaping × Scalar) := do
  let b ← b.visit entry.1
  match b.shape? entry.1 with
  | some (.scalar key) =>
    let b ← b.visit entry.2
    .ok (b, key)
  | _ => .error .compoundKey

def entriesOf (b : Shaping) (n : Nat) : Except Fault (Shaping × List (Scalar × Nat)) :=
  if !b.graph.isMapping n then .error .wrongKind
  else do
    let graph ← b.graph.flatten b.merges n
    let (b, entries) ← (graph.pairs n).foldlM (fun (b, entries) entry => do
      let (b, key) ← b.visitEntry entry
      .ok (b, Entries.upsert (·.identity == key.identity) key entry.2 entries))
      ({ b with graph }, [])
    .ok (b, entries)

def pairOf (b : Shaping) (item : Nat) : Except Fault (Nat × Nat) :=
  match b.graph.pairs item with
  | [pair] => .ok pair
  | _ => .error .notPairs

def fill (b : Shaping) (n : Nat) : Except Fault Shaping :=
  match b.shape? n, b.graph.node n with
  | some (.list _), .sequence _ items => do
    let b ← items.foldlM visit b
    .ok (b.withShape n (.list items))
  | some (.pairs _), .sequence _ items => do
    let (b, pairs) ← items.foldlM (fun (b, pairs) item => do
      let pair ← b.pairOf item
      let b ← b.visit pair.1
      let b ← b.visit pair.2
      .ok (b, pair :: pairs)) (b, [])
    .ok (b.withShape n (.pairs pairs.reverse))
  | some (.object _), _ => do
    let (b, entries) ← b.entriesOf n
    .ok (b.withShape n (.object entries))
  | some (.set _), _ => do
    let (b, entries) ← b.entriesOf n
    .ok (b.withShape n (.set (entries.map (·.1))))
  | _, _ => .error .wrongKind

/-- Fills collections in the order in which they were come to. Every node is filled at most once,
and before each row of waiting collections there is one step more. -/
def finish : Nat → List Nat → Shaping → Except Fault Shaping
  | 0, _, b => .ok b
  | fuel + 1, [], b =>
    if b.waiting.isEmpty then .ok b
    else finish fuel b.waiting.reverse { b with waiting := [] }
  | fuel + 1, n :: more, b => do
    let b ← b.fill n
    finish fuel more b

end Shaping

def Graph.shapes (g : Graph) (root : Nat) : Except Fault (Array (Option Shape)) := do
  let b ← (Shaping.start g).visit root
  let b ← Shaping.finish (2 * g.size + 2) [] b
  .ok b.shapes

end ApiOutline.Yaml
