import SearchRequest.Value.Key
import SearchRequest.Yaml.Node.Merge
import SearchRequest.Yaml.Scalar.Value

/-!
# Values of nodes

What a node stands for. A document is read level by level: a collection is made as soon as something leads to
it, and filled only after everything on its level has been made. So of several faults the shallowest is
reported, and of those the first. Every node is made once, however many ways lead to it.

Values are then given to the nodes in rounds, to parts before the collections that hold them, and a value is
shared by all that lead to its node. A collection may contain itself. Every round writes such a one out once more
inside itself, and there are as many rounds as calls can be nested. In its innermost place stands a mark: whoever
follows the collection that far has no call left to go on with.
-/

namespace SearchRequest.Yaml

/-- What has been made of a node. -/
inductive Made where
  | scalar (v : Value)
  | list (items : List NodeId)
  /-- A list of pairs. -/
  | pairs (entries : List NodeEntry)
  | dict (entries : List NodeEntry)
  | set (keys : List NodeId)

namespace Made

def isScalar : Made → Bool
  | .scalar _ => true
  | _ => false

/-- The nodes that something is made of. -/
def parts : Made → List NodeId
  | .scalar _ => []
  | .list items => items
  | .pairs entries | .dict entries => entries.flatMap fun (key, v) => [key, v]
  | .set keys => keys

/-- The value of something, given those of its parts. -/
def value (part : NodeId → Value) : Made → Value
  | .scalar v => v
  | .list items => .list (items.map part)
  | .pairs entries => .list (entries.map fun (key, v) => .tuple [part key, part v])
  | .dict entries => .dict (Entries.ofList (entries.map fun (key, v) => (part key, part v)))
  | .set keys => Value.setOf (keys.map part)

end Made

namespace Graph

/-- The text of a node that is read as a scalar: a mapping stands for its default value. -/
def scalarText (g : Graph) : Nat → NodeId → Except Fault (List Char)
  | 0, _ => .error (.malformed .endless)
  | fuel + 1, id =>
    match g.content id with
    | .scalar text => .ok text
    | .sequence _ => .error (.malformed .nodeKind)
    | .mapping entries =>
      match entries.find? fun entry => g.tag entry.1 = .value with
      | some (_, v) => g.scalarText fuel v
      | none => .error (.malformed .nodeKind)

end Graph

/-- How far the making of values has come. -/
structure Making where
  graph : Graph
  made : Array (Option Made)
  /-- The collections that are still to be filled, the last one first. -/
  waiting : List NodeId

namespace Making

def start (g : Graph) : Making := ⟨g, .replicate g.next none, []⟩

def get? (m : Making) (id : NodeId) : Option Made := m.made.getD id none

def put (m : Making) (id : NodeId) (made : Made) : Making :=
  { m with made := m.made.setIfInBounds id (some made) }

/-- A collection made empty, to be filled in its turn. -/
def await (m : Making) (id : NodeId) : Making :=
  { m with made := m.made.setIfInBounds id (some (.list [])), waiting := id :: m.waiting }

/-- The value of a node that is read as a scalar. -/
def scalar (m : Making) (id : NodeId) (tag : Tag) : Except Fault Value := do
  let text ← m.graph.scalarText (m.graph.next + 1) id
  match tag with
  | .null => pure .null
  | .bool => ScalarValue.bool text
  | .int => ScalarValue.int text
  | .float => ScalarValue.float text
  | .binary => ScalarValue.binary text
  | .timestamp =>
    match m.graph.content id with
    | .scalar text => ScalarValue.timestamp text
    | _ => .error .timestampMapping
  | .str => pure (.str (String.ofList text))
  | _ => .error (.malformed .undefinedTag)

/-- The value as the one of a node: what is no number bears the mark of the node. -/
def marked (id : NodeId) : Value → Value
  | .float (.nan none) => .float (.nan (some (ScalarValue.notANumberMark + 1 + id)))
  | v => v

/-- A node made, unless it has been made before. -/
def make (m : Making) (id : NodeId) : Except Fault Making :=
  if (m.get? id).isSome then .ok m
  else match m.graph.tag id with
    | .seq | .map | .set | .omap | .pairs => .ok (m.await id)
    | .merge | .value | .undefined => .error (.malformed .undefinedTag)
    | tag => do
      let v ← m.scalar id tag
      pure (m.put id (.scalar (marked id v)))

/-- A key made. A collection is none. -/
def makeKey (m : Making) (id : NodeId) : Except Fault Making := do
  let m ← m.make id
  if (m.get? id).any Made.isScalar then pure m else .error (.malformed .key)

/-- The entries of a mapping made, its merge keys resolved. -/
def makeEntries (m : Making) (id : NodeId) : Except Fault Making := do
  let g ← m.graph.resolveMerges id
  (g.entries id).foldlM (fun m (key, v) => do (← m.makeKey key).make v) { m with graph := g }

/-- The entry of a mapping that has just one. -/
def onlyEntry (m : Making) (id : NodeId) : Except Fault NodeEntry :=
  match m.graph.content id with
  | .mapping [entry] => .ok entry
  | _ => .error (.malformed .nodeKind)

/-- The entries of a list of pairs made, each the only one of its mapping. -/
def makePairs (m : Making) : List NodeId → Except Fault (List NodeEntry × Making)
  | [] => .ok ([], m)
  | item :: items => do
    let (key, v) ← m.onlyEntry item
    let m ← (← m.make key).make v
    let (entries, m) ← m.makePairs items
    pure ((key, v) :: entries, m)

/-- A collection filled. -/
def fill (m : Making) (id : NodeId) : Except Fault Making :=
  match m.graph.tag id, m.graph.content id with
  | .seq, .sequence items => do
    let m ← items.foldlM make m
    pure (m.put id (.list items))
  | .map, .mapping _ => do
    let m ← m.makeEntries id
    pure (m.put id (.dict (m.graph.entries id)))
  | .set, .mapping _ => do
    let m ← m.makeEntries id
    pure (m.put id (.set ((m.graph.entries id).map (·.1))))
  | .omap, .sequence items | .pairs, .sequence items => do
    let (entries, m) ← m.makePairs items
    pure (m.put id (.pairs entries))
  | _, _ => .error (.malformed .nodeKind)

/-- Everything made that the collections in waiting lead to, level by level. -/
def run : Nat → Making → Except Fault Making
  | 0, m => .ok m
  | fuel + 1, m =>
    if m.waiting.isEmpty then .ok m
    else do run fuel (← m.waiting.reverse.foldlM fill { m with waiting := [] })

/-- The nodes that something made leads to directly. -/
def partsOf (m : Making) (id : NodeId) : List NodeId := ((m.get? id).map Made.parts).getD []

/-- The nodes that a node leads to, and the node itself, put in front of those found so far, each in front of
its parts unless they lead back to it. -/
def collect (m : Making) : Nat → Array Bool × List NodeId → NodeId → Array Bool × List NodeId
  | 0, found, _ => found
  | fuel + 1, (isFound, found), id =>
    if isFound.getD id true then (isFound, found)
    else
      let (isFound, found) := (m.partsOf id).foldl (m.collect fuel) (isFound.setIfInBounds id true, found)
      (isFound, id :: found)

/-- The nodes that a node leads to, parts first. -/
def partsFirst (m : Making) (root : NodeId) : List NodeId :=
  let count := m.graph.next
  (m.collect (count + 1) (.replicate count false, []) root).2.reverse

/-- The values of nodes after one more round, in which one node after another gets the value that it has by
those of its parts. -/
def round (m : Making) (order : List NodeId) (values : Array Value) : Array Value :=
  order.foldl (fun values id =>
    match m.get? id with
    | some made =>
      let v := made.value fun part => values.getD part .null
      values.setIfInBounds id v
    | none => values) values

/-- Whether a node comes before one of its parts in an order with parts first, so that the part leads back to
it. -/
def leadsBack (m : Making) (order : List NodeId) : Bool :=
  (order.foldl (fun (isPast, found) id =>
    let found := found || (m.partsOf id).any fun part => !isPast.getD part false
    (isPast.setIfInBounds id true, found)) (Array.replicate m.graph.next false, false)).2

/-- How deep calls can be nested. -/
def callDepth : Nat := 1000

/-- The value of the node that stands for everything. -/
def rootValue (m : Making) (root : NodeId) : Value :=
  let order := m.partsFirst root
  let rounds := if m.leadsBack order then callDepth else 1
  let values := Nat.repeat (m.round order) rounds (.replicate m.graph.next .enclosing)
  values.getD root .null

end Making

/-- The value that a document stands for. -/
def Tree.value (t : Tree) : Except Fault Value := do
  let m ← (Making.start t.graph).make t.root
  let m ← m.run (t.graph.next + 1)
  pure (m.rootValue t.root)

end SearchRequest.Yaml
