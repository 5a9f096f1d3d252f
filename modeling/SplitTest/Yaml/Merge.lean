import SplitTest.Yaml.Node

/-! Merge keys: mappings of a graph take over the pairs of the mappings that they name. -/
namespace SplitTest.Yaml.Graph

def setNode (g : Graph) (id : NodeId) (node : Node) : Graph :=
  { g with nodes := g.nodes.setIfInBounds id node }

def setPairs (g : Graph) (id : NodeId) (pairs : List (NodeId × NodeId)) : Graph :=
  g.setNode id (.mapping (g.node id).tag pairs)

def pairCount (g : Graph) : Nat :=
  g.nodes.foldl (fun n node => n + node.pairs.length) 0

/-- What the first merge key among pairs names, and the other pairs. -/
def splitMerge? (g : Graph) : List (NodeId × NodeId) → Option (NodeId × List (NodeId × NodeId))
  | [] => none
  | (key, value) :: rest =>
    if (g.node key).tag = .merge then some (value, rest)
    else (splitMerge? g rest).map fun (source, others) => (source, (key, value) :: others)

/-- The mappings that a merge key names: one, or those of a list. -/
def mergeSources (g : Graph) (id : NodeId) : Except Error (List NodeId) :=
  match g.node id with
  | .mapping _ _ => .ok [id]
  | .sequence _ items =>
    if items.all fun item => g.node item matches .mapping _ _ then .ok items else .error .malformed
  | .scalar _ _ => .error .malformed

/-- An equals sign as a key is a text. -/
def nameEquals (g : Graph) (key : NodeId) : Graph :=
  match (g.node key).tag with
  | .equals => g.setNode key (.withTag .text (g.node key))
  | _ => g

/-- A mapping takes over the pairs of the mappings that its merge keys name, those of later ones in
a list in front. A merge key is gone before the mappings that it names take over theirs, so that
mappings that name each other come to an end; `fuel` is more than there are merge keys. -/
def settle : Nat → Graph → NodeId → Except Error Graph
  | 0, _, _ => .error .malformed
  | fuel + 1, g, id =>
    let pairs := (g.node id).pairs
    match g.splitMerge? pairs with
    | none => .ok (pairs.foldl (fun g (key, _) => g.nameEquals key) g)
    | some (named, others) => do
      let g := g.setPairs id others
      let (g, taken) ← (← g.mergeSources named).foldlM (fun (g, taken) source => do
        let g ← settle fuel g source
        return (g, (g.node source).pairs ++ taken)) (g, [])
      let g ← settle fuel g id
      return g.setPairs id (taken ++ (g.node id).pairs)

end SplitTest.Yaml.Graph
