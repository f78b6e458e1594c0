import ApiCatalog.Yaml.Node
import ApiCatalog.Yaml.ScalarValue

/-!
Values of nodes. A collection is filled only after the one that it stands in, so that of several
faults the outermost one counts, and of those the first. A mapping takes over what is merged into
it when it is filled, and keeps it for all places where it stands.
-/

set_option autoImplicit false

namespace ApiCatalog.Yaml

abbrev Pairs := List (NodeId × NodeId)

namespace Nodes

def node (nodes : Nodes) (id : NodeId) : Node := nodes.getD id .empty

def tagOf (nodes : Nodes) (id : NodeId) : Tag := (nodes.node id).tag

def isMapping (nodes : Nodes) (id : NodeId) : Bool :=
  match (nodes.node id).content with
  | .mapping _ => true
  | _ => false

def pairs (nodes : Nodes) (id : NodeId) : Pairs :=
  match (nodes.node id).content with
  | .mapping pairs => pairs
  | _ => []

def setPairs (nodes : Nodes) (id : NodeId) (pairs : Pairs) : Nodes :=
  nodes.setIfInBounds id ⟨nodes.tagOf id, .mapping pairs⟩

def isMerge (nodes : Nodes) (pair : NodeId × NodeId) : Bool := nodes.tagOf pair.1 = .merge

-- An equals sign as a key is an ordinary text, wherever else the key stands.
def plainKeys (nodes : Nodes) (pairs : Pairs) : Nodes :=
  pairs.foldl (fun nodes (key, _) =>
    if nodes.tagOf key = .value then
      nodes.setIfInBounds key ⟨.text, (nodes.node key).content⟩
    else nodes) nodes

def mergeCount (nodes : Nodes) : Nat :=
  nodes.foldl (fun count node =>
    match node.content with
    | .mapping pairs => count + (pairs.filter nodes.isMerge).length
    | _ => count) 0

-- Each turn of `flatten` takes away a merge, so that their number is fuel enough.
mutual
-- Merges into a mapping: what is merged comes first. A merge is taken out before what it merges
-- is looked at, so that a mapping may even merge itself.
def flatten (fuel : Nat) (id : NodeId) (merged : Pairs) (nodes : Nodes) : Except Fault Nodes :=
  match fuel, (nodes.pairs id).find? nodes.isMerge with
  | fuel + 1, some merge => do
    let rest := (nodes.pairs id).eraseP nodes.isMerge
    let (more, nodes) ← mergedBy fuel merge.2 (nodes.setPairs id rest)
    flatten fuel id (merged ++ more) nodes
  | _, _ =>
    let nodes := nodes.plainKeys (nodes.pairs id)
    .ok (if merged.isEmpty then nodes else nodes.setPairs id (merged ++ nodes.pairs id))
termination_by (fuel, 0, 0)

def mergedBy (fuel : Nat) (source : NodeId) (nodes : Nodes) : Except Fault (Pairs × Nodes) :=
  match (nodes.node source).content with
  | .mapping _ => do
    let nodes ← flatten fuel source [] nodes
    return (nodes.pairs source, nodes)
  | .sequence items => mergedByAll fuel items nodes
  | .scalar _ => .error .malformed
termination_by (fuel, 2, 0)

def mergedByAll (fuel : Nat) (sources : List NodeId) (nodes : Nodes) :
    Except Fault (Pairs × Nodes) :=
  match sources with
  | [] => .ok ([], nodes)
  | source :: rest =>
    if nodes.isMapping source then do
      let nodes ← flatten fuel source [] nodes
      let (later, after) ← mergedByAll fuel rest nodes
      return (later ++ nodes.pairs source, after)
    else .error .malformed
termination_by (fuel, 1, sources.length)
end

def text (nodes : Nodes) : Nat → NodeId → Except Fault String
  | 0, _ => .error .endless
  | fuel + 1, id =>
    match (nodes.node id).content with
    | .scalar text => .ok text
    | .sequence _ => .error .malformed
    | .mapping pairs =>
      match pairs.find? fun (key, _) => nodes.tagOf key = .value with
      | some (_, value) => nodes.text fuel value
      | none => .error .malformed

def scalar (nodes : Nodes) (id : NodeId) : Except Fault Scalar := do
  let tag := nodes.tagOf id
  if !tag.isScalar then .error .malformed
  else
    let text ← nodes.text (nodes.size + 1) id
    if tag = .timestamp && nodes.isMapping id then .error .notText else scalarValue id tag text

end Nodes

-- Integers in a set are ordered by their remainders, so that small ones ascend.
def setOrder (items : List Scalar) : List Scalar :=
  let size : Int := if items.length ≤ 4 then 8 else 32
  if items.all (·.asInt?.isSome) then
    items.mergeSort fun a b => (a.asInt?.getD 0) % size ≤ (b.asInt?.getD 0) % size
  else items

inductive Part
  | unfilled
  | scalar (s : Scalar)
  | list (items : List NodeId)
  | tuple (items : List NodeId)
  | set (items : List Scalar)
  | mapping (entries : List (Scalar × NodeId))

/-- `merges` is at least the number of merges in the nodes. `parts` has a place for each node, and
further ones for tuples. `waiting` are the collections to be filled next, last one first. -/
structure Builder where
  nodes : Nodes
  merges : Nat
  parts : Array (Option Part)
  waiting : List NodeId

namespace Builder

def start (nodes : Nodes) : Builder :=
  ⟨nodes, nodes.mergeCount, Array.replicate nodes.size none, []⟩

def part? (b : Builder) (id : NodeId) : Option Part := (b.parts[id]?).getD none

def setPart (b : Builder) (id : NodeId) (part : Part) : Builder :=
  { b with parts := b.parts.setIfInBounds id (some part) }

def addPart (b : Builder) (part : Part) : NodeId × Builder :=
  (b.parts.size, { b with parts := b.parts.push (some part) })

def build (b : Builder) (id : NodeId) : Except Fault Builder :=
  if (b.part? id).isSome then .ok b
  else if (b.nodes.tagOf id).isCollection then
    .ok { b.setPart id .unfilled with waiting := id :: b.waiting }
  else do return b.setPart id (.scalar (← b.nodes.scalar id))

def key (b : Builder) (id : NodeId) : Except Fault (Scalar × Builder) := do
  let b ← b.build id
  match b.part? id with
  | some (.scalar s) => return (s, b)
  | _ => .error .malformed

def entries (b : Builder) (built : List (Scalar × NodeId)) :
    Pairs → Except Fault (List (Scalar × NodeId) × Builder)
  | [] => .ok (built, b)
  | (key, value) :: rest => do
    let (s, b) ← b.key key
    let b ← b.build value
    b.entries (Entries.put s value built) rest

def tuples (b : Builder) : List NodeId → Except Fault (List NodeId × Builder)
  | [] => .ok ([], b)
  | item :: rest =>
    match b.nodes.pairs item with
    | [(key, value)] => do
      let b ← (← b.build key).build value
      let (id, b) := b.addPart (.tuple [key, value])
      let (later, b) ← b.tuples rest
      return (id :: later, b)
    | _ => .error .malformed

def fill (b : Builder) (id : NodeId) : Except Fault Builder := do
  let node := b.nodes.node id
  match node.tag, node.content with
  | .sequence, .sequence items => return (← items.foldlM build b).setPart id (.list items)
  | .orderedMapping, .sequence items | .pairs, .sequence items =>
    let (ids, b) ← b.tuples items
    return b.setPart id (.list ids)
  | .mapping, .mapping _ | .set, .mapping _ =>
    let nodes ← b.nodes.flatten b.merges id []
    let (entries, b) ← ({ b with nodes } : Builder).entries [] (nodes.pairs id)
    return b.setPart id (if node.tag = .set then .set (setOrder (entries.map (·.1)))
      else .mapping entries)
  | _, _ => .error .malformed

-- Fills all collections, those that stand further in later. No node waits twice.
def fillAll : Nat → Builder → Except Fault Builder
  | 0, b => .ok b
  | fuel + 1, b =>
    if b.waiting.isEmpty then .ok b
    else do fillAll fuel (← b.waiting.reverse.foldlM fill { b with waiting := [] })

-- Whether a mapping refers to another place.
def isReference (b : Builder) (entries : List (Scalar × NodeId)) : Bool :=
  match (entries.find? (·.1 = .text "$ref")).bind (b.part? ·.2) with
  | some (.scalar (.text _)) => true
  | _ => false

-- The value of a part. `path` are the collections that it stands in; tuples and references are
-- looked at by themselves, and outside of them `apart` is false. A collection on the path is
-- not written out.
def value (b : Builder) : Nat → Bool → List NodeId → NodeId → Value
  | 0, _, _, _ => .null
  | fuel + 1, apart, path, id =>
    match b.part? id with
    | some (.scalar s) => .scalar s
    | some (.set items) => .set items
    | some (.list items) =>
      if path.contains id then .again .list (path.idxOf id)
      else .list (items.map (b.value fuel apart (id :: path)))
    | some (.tuple items) =>
      if path.contains id then .again .tuple (path.idxOf id)
      else .tuple (items.map (b.value fuel true (if apart then id :: path else [id])))
    | some (.mapping entries) =>
      if path.contains id then .again .mapping (path.idxOf id)
      else
        let refers := b.isReference entries
        let path := if refers && !apart then [id] else id :: path
        .mapping (entries.map fun (key, value) => (key, b.value fuel (apart || refers) path value))
    | some .unfilled | none => .null

end Builder

def load (text : String) : Except Fault Value := do
  match ← Graph.ofTokens (tokens text) with
  | none => return .null
  | some graph =>
    let b ← (← (Builder.start graph.nodes).build graph.root).fillAll (graph.nodes.size + 1)
    return b.value (2 * b.parts.size + 2) false [] graph.root

end ApiCatalog.Yaml
