import ApiOutline.Machine
import ApiOutline.Yaml.Token.Scan
import ApiOutline.Yaml.Tag

/-!
Nodes of a YAML document, and how tokens form them. The nodes of a document stand in one row, and
collections name what they hold by its number in the row. An alias names the node with its anchor,
which may be a collection around the alias.
-/
namespace ApiOutline.Yaml

inductive Node where
  | scalar (tag : Tag) (text : String)
  | sequence (tag : Tag) (items : List Nat)
  | mapping (tag : Tag) (pairs : List (Nat × Nat))
  deriving DecidableEq, Repr

abbrev Graph := Array Node

namespace Node

def empty : Node := .scalar .null ""

def tag : Node → Tag
  | .scalar t _ => t
  | .sequence t _ => t
  | .mapping t _ => t

def withTag (t : Tag) : Node → Node
  | .scalar _ text => .scalar t text
  | .sequence _ items => .sequence t items
  | .mapping _ pairs => .mapping t pairs

end Node

namespace Graph

def node (g : Graph) (n : Nat) : Node := g[n]?.getD .empty

def pairs (g : Graph) (n : Nat) : List (Nat × Nat) :=
  match g.node n with
  | .mapping _ pairs => pairs
  | _ => []

end Graph

namespace Node

/-- The tokens that are left, the fault that follows the last one, the handles of tags, the nodes so
far, those of them that have anchors, and the number of the collections that are not complete. -/
structure Form where
  tokens : List Token
  fault : Fault
  handles : List (String × String)
  nodes : Graph
  anchors : List (String × Nat)
  depth : Nat

abbrev Forming := StateT Form (Except Fault)

def peek : Forming Token := do
  match (← get).tokens with
  | t :: _ => pure t
  | [] => throw (← get).fault

def drop : Forming Unit := modify fun f => { f with tokens := f.tokens.tail }

def takes (t : Token) : Forming Bool := do
  if (← peek) = t then
    drop
    pure true
  else pure false

def expect (t : Token) : Forming Unit := do
  if !(← takes t) then throw .unexpectedToken

structure Properties where
  anchor : Option String
  tag : Option String

def tagText (handle : Option String) (suffix : String) : Forming String := do
  match handle with
  | none => pure suffix
  | some h =>
    match (← get).handles.lookup h with
    | some text => pure (text ++ suffix)
    | none => throw .undefinedHandle

def properties : Forming Properties := do
  match ← peek with
  | .anchor a =>
    drop
    match ← peek with
    | .tag h s =>
      drop
      let t ← tagText h s
      pure ⟨some a, some t⟩
    | _ => pure ⟨some a, none⟩
  | .tag h s =>
    drop
    let anchor ← match ← peek with
      | .anchor a => do
        drop
        pure (some a)
      | _ => pure none
    let t ← tagText h s
    pure ⟨anchor, some t⟩
  | _ => pure ⟨none, none⟩

/-- The tag of a scalar. A single exclamation mark asks for the tag that the text suggests, even if
the text is quoted; a line break at its end does not count then. -/
def scalarTag (tag : Option String) (plain : Bool) (text : String) : Tag :=
  match tag with
  | none => if plain then Tag.ofPlain text.toList else .text
  | some t => if t = "!" then Tag.ofPlain (Tag.withoutLastBreak text.toList) else Tag.ofText t

def collectionTag (tag : Option String) (usual : Tag) : Tag :=
  match tag with
  | none => usual
  | some t => if t = "!" then usual else Tag.ofText t

def add (anchor : Option String) (n : Node) : Forming Nat := do
  let known := (← get).anchors
  if anchor.any fun a => (known.lookup a).isSome then throw .repeatedAnchor
  modifyGet fun f => (f.nodes.size,
    { f with nodes := f.nodes.push n
             anchors := (anchor.map fun a => (a, f.nodes.size)).toList ++ f.anchors })

variable [Machine]

def addCollection {α : Type} (anchor : Option String) (complete : List α → Node)
    (parts : Forming (List α)) : Forming Nat := do
  if Machine.yamlLevels ≤ (← get).depth then throw (.unprepared .tooDeep)
  let n ← add anchor (complete [])
  modify fun f => { f with depth := f.depth + 1 }
  let parts ← parts
  modify fun f =>
    { f with nodes := f.nodes.setIfInBounds n (complete parts), depth := f.depth - 1 }
  pure n

def ofAlias (a : String) : Forming Nat := do
  match (← get).anchors.lookup a with
  | none => throw .undefinedAlias
  | some n => pure n

/-- Where a node may stand: in a flow collection, in a block, or as the key or value of a block
mapping, where a sequence needs no indentation. -/
inductive Place where
  | flow
  | block
  | inMapping
  deriving DecidableEq

mutual

/-- The node that the next tokens form. The first argument bounds the steps. -/
def form : Nat → Place → Forming Nat
  | 0, _ => throw .unexpectedToken
  | fuel + 1, place => do
    match ← peek with
    | .alias a =>
      drop
      ofAlias a
    | _ =>
      let p ← properties
      let sequence := addCollection p.anchor (.sequence (collectionTag p.tag .sequence))
      let mapping := addCollection p.anchor (.mapping (collectionTag p.tag .mapping))
      match ← peek with
      | .scalar text plain =>
        drop
        add p.anchor (.scalar (scalarTag p.tag plain text) text)
      | .flowSequenceStart =>
        drop
        sequence (flowItems fuel true)
      | .flowMappingStart =>
        drop
        mapping (flowPairs fuel true)
      | next =>
        if place = .inMapping ∧ next = .blockEntry then sequence (looseItems fuel)
        else if place ≠ .flow ∧ next = .blockSequenceStart then
          drop
          sequence (blockItems fuel)
        else if place ≠ .flow ∧ next = .blockMappingStart then
          drop
          mapping (blockPairs fuel)
        else if p.anchor.isSome ∨ p.tag.isSome then
          add p.anchor (.scalar (scalarTag p.tag true "") "")
        else throw .unexpectedToken

def formUnless : Nat → Place → List Token → Forming Nat
  | 0, _, _ => throw .unexpectedToken
  | fuel + 1, place, ends => do
    if ends.contains (← peek) then add none empty else form fuel place

def blockItems : Nat → Forming (List Nat)
  | 0 => throw .unexpectedToken
  | fuel + 1 => do
    if ← takes .blockEntry then
      let n ← formUnless fuel .block [.blockEntry, .blockEnd]
      let ns ← blockItems fuel
      pure (n :: ns)
    else
      expect .blockEnd
      pure []

def looseItems : Nat → Forming (List Nat)
  | 0 => throw .unexpectedToken
  | fuel + 1 => do
    if ← takes .blockEntry then
      let n ← formUnless fuel .block [.blockEntry, .key, .value, .blockEnd]
      let ns ← looseItems fuel
      pure (n :: ns)
    else pure []

/-- The pairs of a block mapping. A value needs a key in front of it, a key no value. -/
def blockPairs : Nat → Forming (List (Nat × Nat))
  | 0 => throw .unexpectedToken
  | fuel + 1 => do
    if ← takes .key then
      let k ← formUnless fuel .inMapping [.key, .value, .blockEnd]
      let v ← if ← takes .value then formUnless fuel .inMapping [.key, .value, .blockEnd]
        else add none empty
      let rest ← blockPairs fuel
      pure ((k, v) :: rest)
    else
      expect .blockEnd
      pure []

/-- The items of a flow sequence; a single pair is an item of its own. -/
def flowItems : Nat → Bool → Forming (List Nat)
  | 0, _ => throw .unexpectedToken
  | fuel + 1, first => do
    if ← takes .flowSequenceEnd then pure []
    else
      if !first then expect .flowEntry
      if ← takes .flowSequenceEnd then pure []
      else if ← takes .key then
        let n ← addCollection none (.mapping .mapping) do
          let k ← formUnless fuel .flow [.value, .flowEntry, .flowSequenceEnd]
          let v ← if ← takes .value then formUnless fuel .flow [.flowEntry, .flowSequenceEnd]
            else add none empty
          pure [(k, v)]
        let rest ← flowItems fuel false
        pure (n :: rest)
      else
        let n ← form fuel .flow
        let rest ← flowItems fuel false
        pure (n :: rest)

def flowPairs : Nat → Bool → Forming (List (Nat × Nat))
  | 0, _ => throw .unexpectedToken
  | fuel + 1, first => do
    if ← takes .flowMappingEnd then pure []
    else
      if !first then expect .flowEntry
      if ← takes .flowMappingEnd then pure []
      else if ← takes .key then
        let k ← formUnless fuel .flow [.value, .flowEntry, .flowMappingEnd]
        let v ← if ← takes .value then formUnless fuel .flow [.flowEntry, .flowMappingEnd]
          else add none empty
        let rest ← flowPairs fuel false
        pure ((k, v) :: rest)
      else
        let k ← form fuel .flow
        let v ← add none empty
        let rest ← flowPairs fuel false
        pure ((k, v) :: rest)

end

/-- The directives before a document: at most one version, of the first generation, and handles
that are given once. -/
def directives : Nat → Bool → List (String × String) → Forming (List (String × String))
  | 0, _, _ => throw .unexpectedToken
  | fuel + 1, versioned, handles => do
    match ← peek with
    | .version major =>
      if versioned then throw .repeatedDirective
      if major ≠ 1 then throw .incompatibleVersion
      drop
      directives fuel true handles
    | .handle h text =>
      if (handles.lookup h).isSome then throw .repeatedDirective
      drop
      directives fuel versioned ((h, text) :: handles)
    | .directive =>
      drop
      directives fuel versioned handles
    | _ => pure handles

/-- The handles that need no directive; a directive for one of them counts more. -/
def usualHandles : List (String × String) := [("!", "!"), ("!!", Tag.common)]

def skipEnds : Nat → Forming Unit
  | 0 => pure ()
  | fuel + 1 => do if ← takes .documentEnd then skipEnds fuel

def isDirective : Token → Bool
  | .version _ => true
  | .handle _ _ => true
  | .directive => true
  | _ => false

def document (fuel : Nat) : Forming (Option Nat) := do
  let first ← peek
  if first = .streamEnd then pure none
  else
    let node ←
      if isDirective first ∨ first = .documentStart then
        let handles ← directives fuel false []
        expect .documentStart
        modify fun f => { f with handles := handles ++ usualHandles }
        let next ← peek
        if isDirective next ∨ [.documentStart, .documentEnd, .streamEnd].contains next then
          add none empty
        else form fuel .block
      else form fuel .block
    skipEnds fuel
    if !(← takes .streamEnd) then throw .secondDocument
    pure (some node)

def ofText (text : List Char) : Except Fault (Option (Nat × Graph)) := do
  let (tokens, fault) := tokens text
  let start : Form := ⟨tokens, fault.getD .unexpectedToken, usualHandles, #[], [], 0⟩
  let (root, f) ← (document (4 * tokens.length + 8)).run start
  .ok (root.map (·, f.nodes))

end Node

end ApiOutline.Yaml
