import SplitTest.Yaml.Merge
import SplitTest.Yaml.Scalar

/-! The values of a graph. Scalars are read level by level from the root down, so of several faults
the one nearest to the root is reported, and of those the first.

Sets, ordered mappings and lists of pairs (`!!set`, `!!omap`, `!!pairs`) are left out: a document
that has one is refused as malformed.

A collection can hold itself, and its value has no end then. Values are trees, so such a collection
is written out to a level, and where it comes again below it stands as `Scalar.loop`, which no
document can write down. Only predicates are read as deep as that: one without an end comes to a
`Scalar.loop` in the place of a predicate or of a list of them, and is refused. -/
namespace SplitTest.Yaml

namespace Graph

/-- The text of a scalar; a mapping has the one under the key that is an equals sign. -/
def scalarText? (g : Graph) : Nat → NodeId → Option String
  | 0, _ => none
  | fuel + 1, id =>
    match g.node id with
    | .scalar _ text => some text
    | .sequence _ _ => none
    | .mapping _ pairs =>
      (pairs.find? fun (key, _) => (g.node key).tag == .equals).bind fun (_, value) =>
        scalarText? g fuel value

/-- The text of a node, however deep it is. -/
def text? (g : Graph) (id : NodeId) : Option String :=
  g.scalarText? (g.nodes.size + 1) id

end Graph

def Tag.isCollection (t : Tag) : Bool :=
  t == sequence || t == mapping

/-- A graph in which some scalars are read, and some mappings have taken over their pairs. -/
structure Evaluation where
  graph : Graph
  /-- The values of scalars, by node. -/
  scalars : Array (Option Scalar)
  /-- The collections that were come upon. -/
  reached : Array Bool
  /-- Those of them that are still to be looked into, the last one first. -/
  waiting : List NodeId
  /-- How many merge keys there are at most. -/
  mergeKeys : Nat

namespace Evaluation

def start (g : Graph) : Evaluation :=
  ⟨g, .replicate g.nodes.size none, .replicate g.nodes.size false, [], g.pairCount⟩

/-- The value of a node is asked for: a scalar is read, a collection waits. -/
def demand (e : Evaluation) (id : NodeId) : Except Error Evaluation := do
  let tag := (e.graph.node id).tag
  if tag.isCollection then
    if e.reached.getD id false then return e
    return { e with reached := e.reached.setIfInBounds id true, waiting := id :: e.waiting }
  if (e.scalars.getD id none).isSome then return e
  match e.graph.text? id with
  | none => .error .malformed
  | some text =>
    let s ← scalarValue tag text
    return { e with scalars := e.scalars.setIfInBounds id (some s) }

/-- A pair is asked for; its key has no parts. -/
def demandPair (e : Evaluation) (pair : NodeId × NodeId) : Except Error Evaluation := do
  if (e.graph.node pair.1).tag.isCollection then .error .malformed
  (← e.demand pair.1).demand pair.2

/-- The parts of a collection are asked for. -/
def lookInto (e : Evaluation) (id : NodeId) : Except Error Evaluation :=
  match e.graph.node id with
  | .sequence .sequence items => items.foldlM demand e
  | .mapping .mapping _ => do
    let graph ← Graph.settle (e.mergeKeys + 1) e.graph id
    (graph.node id).pairs.foldlM demandPair { e with graph }
  | _ => .error .malformed

/-- Looks into collections until none is waiting, those that wait already before new ones. -/
def run : Nat → List NodeId → Evaluation → Except Error Evaluation
  | 0, _, _ => .error .malformed
  | fuel + 1, id :: rest, e => do run fuel rest (← e.lookInto id)
  | fuel + 1, [], e =>
    if e.waiting.isEmpty then .ok e
    else run fuel e.waiting.reverse { e with waiting := [] }

end Evaluation

/-- The values of all nodes that the root leads to. -/
def Graph.evaluate (g : Graph) : Except Error Evaluation := do
  Evaluation.run (2 * g.nodes.size + 2) [] (← (Evaluation.start g).demand g.root)

/-- The number that a key is as good as; truth values are zero and one. -/
def keyNumber? : Scalar → Option Rat
  | .bool b => some (if b then 1 else 0)
  | .int n => some n
  | .float x => x.toRat?
  | _ => none

/-- Whether two scalars are the same key: equal numbers of any kind, the same moment, or equal. -/
def sameKey (a b : Scalar) : Bool :=
  match keyNumber? a, keyNumber? b with
  | some x, some y => x == y
  | none, none =>
    match a, b with
    | .dateTime s, .dateTime t => s.sameMoment t
    | _, _ => a == b
  | _, _ => false

/-- A key of a mapping. What is not a number is told apart by the node that it is written in, unless
it is the word for it. -/
structure Key where
  scalar : Scalar
  origin : Option NodeId

def Key.same (a b : Key) : Bool :=
  a.origin == b.origin && sameKey a.scalar b.scalar

/-- Down to this level collections that hold themselves are written out; nothing in a configuration
but its predicates goes deeper. -/
def unrolledLevels : Nat := 6

/-- The values of collections that do not hold themselves, as far as they are known. -/
abbrev Memory := Array (Option Value)

namespace Evaluation

/-- The key that a scalar is. -/
def keyOf (e : Evaluation) (id : NodeId) : Key :=
  let s := (e.scalars.getD id none).getD .null
  let isWord := ((e.graph.text? id).map fun text => (floatParts text).2) == some nanWord
  ⟨s, if s == .float .nan && !isWord then some id else none⟩

/-- The pairs of a mapping with their keys, each once; of pairs with the same key the last one has
the value. -/
def entries (e : Evaluation) (pairs : List (NodeId × NodeId)) : List (Key × NodeId) :=
  Assoc.ofListBy Key.same (pairs.map fun (key, value) => (e.keyOf key, value))

/-- The value of a collection, remembered if nothing is left out of it. -/
def keep (id : NodeId) (v : Value) (whole : Bool) : StateM Memory (Value × Bool) := do
  if whole then modify (·.setIfInBounds id (some v))
  return (v, whole)

/-- The value of a node inside of others, and whether nothing is left out of it. -/
def valueWithin (e : Evaluation) : Nat → List NodeId → NodeId → StateM Memory (Value × Bool)
  | 0, _, _ => return (.null, false)
  | fuel + 1, around, id => do
    let left := around.contains id && unrolledLevels ≤ around.length
    match e.graph.node id, e.scalars.getD id none, (← get).getD id none with
    | _, some s, _ => return (.scalar s, true)
    | _, _, some v => return (v, true)
    | .sequence _ items, _, _ =>
      if left then return (.scalar (.loop .list), false)
      let parts ← items.mapM (valueWithin e fuel (id :: around))
      keep id (.list (parts.map (·.1))) (parts.all (·.2))
    | .mapping _ pairs, _, _ =>
      if left then return (.scalar (.loop .object), false)
      let entries := e.entries pairs
      let parts ← entries.mapM fun (_, value) => valueWithin e fuel (id :: around) value
      let object := (entries.zip parts).map fun ((key, _), v, _) => (key.scalar, v)
      keep id (.object object) (parts.all (·.2))
    | .scalar _ _, _, _ => return (.null, true)

def value (e : Evaluation) : Value :=
  let size := e.graph.nodes.size
  ((e.valueWithin (size + unrolledLevels + 1) [] e.graph.root).run (.replicate size none)).1.1

end Evaluation
end SplitTest.Yaml
