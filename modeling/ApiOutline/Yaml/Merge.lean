import ApiOutline.Yaml.Node

/-!
Merge keys. The value of a merge key names mappings whose pairs a mapping takes over, in front of
its own ones, so that these count more. A mapping may name itself; by then it holds the pairs that
are left of it.
-/
namespace ApiOutline.Yaml.Graph

def withPairs (g : Graph) (n : Nat) (pairs : List (Nat × Nat)) : Graph :=
  match g.node n with
  | .mapping tag _ => g.setIfInBounds n (.mapping tag pairs)
  | _ => g

def isMapping (g : Graph) (n : Nat) : Bool :=
  match g.node n with
  | .mapping _ _ => true
  | _ => false

/-- The value of the first merge key among pairs, and the other pairs. -/
def takeMerge? (g : Graph) : List (Nat × Nat) → Option (Nat × List (Nat × Nat))
  | [] => none
  | (k, v) :: rest =>
    if (g.node k).tag = .merge then some (v, rest)
    else (takeMerge? g rest).map fun (w, others) => (w, (k, v) :: others)

def settleDefaults (g : Graph) (pairs : List (Nat × Nat)) : Graph :=
  pairs.foldl (fun g (k, _) =>
    if (g.node k).tag = .value then g.setIfInBounds k ((g.node k).withTag .text) else g) g

/-- Carries out the merges of a mapping, one merge key after the other; `merged` are the pairs that
it has taken over so far. Each merge removes its key from the nodes first, so there are not more
steps than merge keys. -/
def merge : Nat → Graph → Nat → List (Nat × Nat) → Except Fault Graph
  | 0, g, _, _ => .ok g
  | fuel + 1, g, n, merged =>
    match takeMerge? g (g.pairs n) with
    | none => .ok ((g.settleDefaults (g.pairs n)).withPairs n (merged ++ g.pairs n))
    | some (source, others) =>
      let g := g.withPairs n others
      match g.node source with
      | .mapping _ _ => do
        let g ← merge fuel g source []
        merge fuel g n (merged ++ g.pairs source)
      | .sequence _ items => do
        let (g, parts) ← items.foldlM (fun (g, parts) i =>
          if g.isMapping i then do
            let g ← merge fuel g i []
            .ok (g, g.pairs i :: parts)
          else .error .notMergeable) (g, [])
        merge fuel g n (merged ++ parts.flatten)
      | .scalar _ _ => .error .notMergeable

def mergeCount (g : Graph) : Nat :=
  g.toList.foldl (fun n node =>
    match node with
    | .mapping _ pairs => n + pairs.countP fun (k, _) => (g.node k).tag = .merge
    | _ => n) 0

def flatten (g : Graph) (merges n : Nat) : Except Fault Graph := merge (merges + 1) g n []

end ApiOutline.Yaml.Graph
