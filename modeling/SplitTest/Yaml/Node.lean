import SplitTest.Assoc
import SplitTest.Yaml.Lexer
import SplitTest.Yaml.Tag

/-! Nodes: the graph that the tokens of a YAML text describe. Nodes are numbered in the order in
which they begin; an alias is the number of an earlier node, perhaps of one around it. -/
namespace SplitTest.Yaml

abbrev NodeId := Nat

/-- A part of a document, with the numbers of its own parts. -/
inductive Node where
  | scalar (tag : Tag) (text : String)
  | sequence (tag : Tag) (items : List NodeId)
  | mapping (tag : Tag) (pairs : List (NodeId × NodeId))
deriving DecidableEq, Repr

namespace Node

/-- What stands where nothing is written. -/
def empty : Node := .scalar (plainTag "") ""

def tag : Node → Tag
  | scalar t _ | sequence t _ | mapping t _ => t

def withTag (t : Tag) : Node → Node
  | scalar _ text => scalar t text
  | sequence _ items => sequence t items
  | mapping _ pairs => mapping t pairs

def pairs : Node → List (NodeId × NodeId)
  | mapping _ pairs => pairs
  | _ => []

/-- Where a node stands: in a flow collection, in a block, or where a list may start without being
indented. -/
inductive Place where
  | flow
  | block
  | blockOrList
deriving DecidableEq, Repr

/-- The tokens that are left, and what is known from those before them. -/
structure Reading where
  tokens : List Token
  /-- What is wrong at the end of the tokens, should they run out. -/
  ended : Error
  /-- Tag handles and what they stand for. -/
  handles : List (String × String)
  anchors : List (String × NodeId)
  /-- The nodes that have begun; a collection is without its parts until it ends. -/
  nodes : Array Node

namespace Reading

def peek (r : Reading) : Except Error Token :=
  match r.tokens with
  | [] => .error r.ended
  | t :: _ => .ok t

def drop (r : Reading) : Reading :=
  { r with tokens := r.tokens.tail }

/-- A node without an anchor begins. -/
def add (r : Reading) (node : Node) : NodeId × Reading :=
  (r.nodes.size, { r with nodes := r.nodes.push node })

/-- A node begins; an anchor is given to one node only. -/
def begin (r : Reading) (anchor : Option String) (node : Node) : Except Error (NodeId × Reading) :=
  match anchor with
  | none => .ok (r.add node)
  | some name =>
    if (Assoc.find? name r.anchors).isSome then .error .malformed
    else
      let (id, r) := r.add node
      .ok (id, { r with anchors := Assoc.insert name id r.anchors })

/-- A collection ends. -/
def finish (r : Reading) (id : NodeId) (node : Node) : NodeId × Reading :=
  (id, { r with nodes := r.nodes.setIfInBounds id node })

def resolve (r : Reading) (name : String) : Except Error NodeId :=
  match Assoc.find? name r.anchors with
  | some id => .ok id
  | none => .error .malformed

/-- The full name of a tag. -/
def fullTag (r : Reading) : Option String → String → Except Error String
  | none, suffix => .ok suffix
  | some handle, suffix =>
    match Assoc.find? handle r.handles with
    | some uri => .ok (uri ++ suffix)
    | none => .error .malformed

end Reading

structure Properties where
  anchor : Option String
  tag : Option String

/-- Anchor and tag in either order, each at most once. -/
def properties (r : Reading) : Except Error (Properties × Reading) := do
  match ← r.peek with
  | .anchor name => do
    let r := r.drop
    match ← r.peek with
    | .tag handle suffix => return (⟨some name, some (← r.fullTag handle suffix)⟩, r.drop)
    | _ => return (⟨some name, none⟩, r)
  | .tag handle suffix => do
    let uri := r.fullTag handle suffix
    let r := r.drop
    match ← r.peek with
    | .anchor name => return (⟨some name, some (← uri)⟩, r.drop)
    | _ => return (⟨none, some (← uri)⟩, r)
  | _ => return (⟨none, none⟩, r)

/-- The tag of a scalar. Without a tag of its own a plain one is told by its text; an exclamation
mark alone has the text of any scalar tell, a line break at its end left out. -/
def scalarTag (tag : Option String) (text : String) (plain : Bool) : Tag :=
  match tag with
  | none => if plain then plainTag text else .text
  | some "!" => plainTag (dropFinalBreak text)
  | some uri => .ofUri uri

def collectionTag (tag : Option String) (default : Tag) : Tag :=
  match tag with
  | none | some "!" => default
  | some uri => .ofUri uri

mutual

/-- A node, `fuel` levels and items deep at most. -/
def read (place : Place) : Nat → Reading → Except Error (NodeId × Reading)
  | 0, _ => .error .malformed
  | fuel + 1, r => do
    match ← r.peek with
    | .alias name => return (← r.resolve name, r.drop)
    | _ =>
      let (props, r) ← properties r
      let t ← r.peek
      match t, place with
      | .scalar text plain, _ =>
        r.drop.begin props.anchor (.scalar (scalarTag props.tag text plain) text)
      | .flowSequenceStart, _ =>
        let node := Node.sequence (collectionTag props.tag .sequence)
        let (id, r) ← r.begin props.anchor (node [])
        let (items, r) ← readFlowItems true fuel r.drop
        return r.finish id (node items)
      | .flowMappingStart, _ =>
        let node := Node.mapping (collectionTag props.tag .mapping)
        let (id, r) ← r.begin props.anchor (node [])
        let (pairs, r) ← readFlowPairs true fuel r.drop
        return r.finish id (node pairs)
      | .blockEntry, .blockOrList =>
        let node := Node.sequence (collectionTag props.tag .sequence)
        let (id, r) ← r.begin props.anchor (node [])
        let (items, r) ← readListItems fuel r
        return r.finish id (node items)
      | .blockSequenceStart, .block | .blockSequenceStart, .blockOrList =>
        let node := Node.sequence (collectionTag props.tag .sequence)
        let (id, r) ← r.begin props.anchor (node [])
        let (items, r) ← readBlockItems fuel r.drop
        return r.finish id (node items)
      | .blockMappingStart, .block | .blockMappingStart, .blockOrList =>
        let node := Node.mapping (collectionTag props.tag .mapping)
        let (id, r) ← r.begin props.anchor (node [])
        let (pairs, r) ← readBlockPairs fuel r.drop
        return r.finish id (node pairs)
      | _, _ =>
        if props.anchor.isNone && props.tag.isNone then .error .malformed
        else r.begin props.anchor (.scalar (scalarTag props.tag "" true) "")

/-- A node, or nothing before a token that ends the place of it. -/
def readUnless (ends : Token → Bool) (place : Place) :
    Nat → Reading → Except Error (NodeId × Reading)
  | 0, _ => .error .malformed
  | fuel + 1, r => do
    if ends (← r.peek) then return r.add empty else read place fuel r

def readBlockItems : Nat → Reading → Except Error (List NodeId × Reading)
  | 0, _ => .error .malformed
  | fuel + 1, r => do
    match ← r.peek with
    | .blockEntry =>
      let (item, r) ← readUnless (fun t => t == .blockEntry || t == .blockEnd) .block fuel r.drop
      let (items, r) ← readBlockItems fuel r
      return (item :: items, r)
    | .blockEnd => return ([], r.drop)
    | _ => .error .malformed

/-- The items of a list that is not indented more than the mapping around it. -/
def readListItems : Nat → Reading → Except Error (List NodeId × Reading)
  | 0, _ => .error .malformed
  | fuel + 1, r => do
    match ← r.peek with
    | .blockEntry =>
      let (item, r) ← readUnless
        (fun t => t == .blockEntry || t == .key || t == .value || t == .blockEnd) .block fuel r.drop
      let (items, r) ← readListItems fuel r
      return (item :: items, r)
    | _ => return ([], r)

def readBlockPairs : Nat → Reading → Except Error (List (NodeId × NodeId) × Reading)
  | 0, _ => .error .malformed
  | fuel + 1, r => do
    let ends := fun (t : Token) => t == .key || t == .value || t == .blockEnd
    match ← r.peek with
    | .key =>
      let (key, r) ← readUnless ends .blockOrList fuel r.drop
      let (value, r) ← match ← r.peek with
        | .value => readUnless ends .blockOrList fuel r.drop
        | _ => pure (r.add empty)
      let (pairs, r) ← readBlockPairs fuel r
      return ((key, value) :: pairs, r)
    | .blockEnd => return ([], r.drop)
    | _ => .error .malformed

/-- The items of a list in brackets; one with a colon is a mapping of one pair. -/
def readFlowItems (first : Bool) : Nat → Reading → Except Error (List NodeId × Reading)
  | 0, _ => .error .malformed
  | fuel + 1, r => do
    let ends := fun (t : Token) => t == .value || t == .flowEntry || t == .flowSequenceEnd
    let valueEnds := fun (t : Token) => t == .flowEntry || t == .flowSequenceEnd
    match ← r.peek with
    | .flowSequenceEnd => return ([], r.drop)
    | t =>
      if !first && t != .flowEntry then .error .malformed
      let r := if first then r else r.drop
      match ← r.peek with
      | .flowSequenceEnd => return ([], r.drop)
      | .key =>
        let (id, r) := r.add (.mapping .mapping [])
        let (key, r) ← readUnless ends .flow fuel r.drop
        let (value, r) ← match ← r.peek with
          | .value => readUnless valueEnds .flow fuel r.drop
          | _ => pure (r.add empty)
        let (_, r) := r.finish id (.mapping .mapping [(key, value)])
        let (items, r) ← readFlowItems false fuel r
        return (id :: items, r)
      | _ =>
        let (item, r) ← read .flow fuel r
        let (items, r) ← readFlowItems false fuel r
        return (item :: items, r)

/-- The pairs of a mapping in braces; one without a colon has no value. -/
def readFlowPairs (first : Bool) : Nat → Reading →
    Except Error (List (NodeId × NodeId) × Reading)
  | 0, _ => .error .malformed
  | fuel + 1, r => do
    let ends := fun (t : Token) => t == .value || t == .flowEntry || t == .flowMappingEnd
    let valueEnds := fun (t : Token) => t == .flowEntry || t == .flowMappingEnd
    match ← r.peek with
    | .flowMappingEnd => return ([], r.drop)
    | t =>
      if !first && t != .flowEntry then .error .malformed
      let r := if first then r else r.drop
      match ← r.peek with
      | .flowMappingEnd => return ([], r.drop)
      | .key =>
        let (key, r) ← readUnless ends .flow fuel r.drop
        let (value, r) ← match ← r.peek with
          | .value => readUnless valueEnds .flow fuel r.drop
          | _ => pure (r.add empty)
        let (pairs, r) ← readFlowPairs false fuel r
        return ((key, value) :: pairs, r)
      | _ =>
        let (key, r) ← read .flow fuel r
        let (value, r) := r.add empty
        let (pairs, r) ← readFlowPairs false fuel r
        return ((key, value) :: pairs, r)

end

/-- The tag handles that need no directive. -/
def defaultHandles : List (String × String) :=
  [("!", "!"), ("!!", "tag:yaml.org,2002:")]

/-- What the directives of a document have said so far. -/
structure Preamble where
  versionSeen : Bool
  handles : List (String × String)

/-- The directives in front of a document: one version, and each handle once. -/
def readDirectives (p : Preamble) : List Token → Except Error (Preamble × List Token)
  | .directive (.version major) :: rest =>
    if p.versionSeen || major != 1 then .error .malformed
    else readDirectives { p with versionSeen := true } rest
  | .directive (.tagHandle handle uri) :: rest =>
    if (Assoc.find? handle p.handles).isSome then .error .malformed
    else readDirectives { p with handles := Assoc.insert handle uri p.handles } rest
  | .directive .other :: rest => readDirectives p rest
  | tokens => .ok (p, tokens)

/-- Nothing follows a document but marks of its end. -/
def checkEnd (r : Reading) : Except Error Unit := do
  match r.tokens.dropWhile (· == .documentEnd) with
  | .streamEnd :: _ => return
  | tokens =>
    let (_, rest) ← readDirectives ⟨false, []⟩ tokens
    if rest.isEmpty then .error r.ended else .error .malformed

/-- The document that tokens start with: without a mark if it has no directives. -/
def readDocument (r : Reading) : Except Error (NodeId × Reading) := do
  let fuel := 4 * r.tokens.length + 4
  match ← r.peek with
  | .directive _ | .documentStart =>
    let (p, rest) ← readDirectives ⟨false, []⟩ r.tokens
    let handles := p.handles ++
      defaultHandles.filter fun (handle, _) => (Assoc.find? handle p.handles).isNone
    let r := { r with tokens := rest, handles }
    match ← r.peek with
    | .documentStart =>
      readUnless (fun t => t == .documentStart || t == .documentEnd || t == .streamEnd ||
        t matches .directive _) .block fuel r.drop
    | _ => .error .malformed
  | _ => read .block fuel r

end Node

/-- The nodes of a document, and the one that holds the others. -/
structure Graph where
  nodes : Array Node
  root : NodeId
deriving Repr

namespace Graph

def node (g : Graph) (id : NodeId) : Node :=
  g.nodes.getD id .empty

/-- The document of a text, none if there is nothing in it. -/
def ofText? (text : List Char) : Except Error (Option Graph) := do
  let (tokens, error) := Yaml.tokens text
  let r : Node.Reading := ⟨tokens, error.getD .malformed, Node.defaultHandles, [], #[]⟩
  match ← r.peek with
  | .streamEnd => return none
  | _ =>
    let (root, r) ← Node.readDocument r
    Node.checkEnd r
    return some ⟨r.nodes, root⟩

end Graph
end SplitTest.Yaml
