import SearchRequest.Yaml.Fault
import SearchRequest.Yaml.Timestamp

/-!
# Node graphs

The nodes of a document before its scalars are read. A node is known by its number, and a collection holds
the numbers of its parts. An alias is one more way to the node that it names, so the nodes form a graph, and a
collection may contain itself.
-/

namespace SearchRequest.Yaml

/-- The number of a node in its graph. -/
abbrev NodeId := Nat

/-- A key and its value. -/
abbrev NodeEntry := NodeId × NodeId

inductive Content where
  | scalar (text : List Char)
  | sequence (items : List NodeId)
  | mapping (entries : List NodeEntry)

structure Node where
  tag : Tag
  content : Content

structure Graph where
  nodes : Array Node

namespace Graph

def empty : Graph := ⟨#[]⟩

/-- The node with a number; a number without a node stands for an undefined one. -/
def node (g : Graph) (id : NodeId) : Node := g.nodes.getD id ⟨.undefined, .scalar []⟩

def tag (g : Graph) (id : NodeId) : Tag := (g.node id).tag

def content (g : Graph) (id : NodeId) : Content := (g.node id).content

/-- The number that the next new node gets. -/
def next (g : Graph) : NodeId := g.nodes.size

/-- The graph with one more node. -/
def add (g : Graph) (n : Node) : Graph := ⟨g.nodes.push n⟩

/-- The graph with a node replaced. -/
def set (g : Graph) (id : NodeId) (n : Node) : Graph := ⟨g.nodes.setIfInBounds id n⟩

/-- The graph with a node under another tag. -/
def retag (g : Graph) (id : NodeId) (tag : Tag) : Graph := g.set id { g.node id with tag := tag }

/-- The entries of a mapping; any other node has none. -/
def entries (g : Graph) (id : NodeId) : List NodeEntry :=
  match g.content id with
  | .mapping entries => entries
  | _ => []

/-- The graph with the entries of a mapping replaced. -/
def setEntries (g : Graph) (id : NodeId) (entries : List NodeEntry) : Graph :=
  g.set id ⟨g.tag id, .mapping entries⟩

end Graph

/-- A graph of nodes and the one that stands for the whole document. -/
structure Tree where
  graph : Graph
  root : NodeId

/-- The tag that a plain scalar has by its text, up to a line break at its end. A line break alone is a
text. -/
def Tag.ofPlain (text : List Char) : Tag :=
  let line := if text.getLast? = some '\n' then text.dropLast else text
  if text = ['\n'] then .str
  else if Tag.truthTexts.contains (String.ofList line) then .bool
  else if Tag.isFloat line then .float
  else if Tag.isWhole (Tag.unsigned line) then .int
  else if line = ['<', '<'] then .merge
  else if Tag.nullTexts.contains (String.ofList line) then .null
  else if Timestamp.isPlain line then .timestamp
  else if line = ['='] then .value
  else .str

end SearchRequest.Yaml
