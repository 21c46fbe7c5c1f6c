import SearchRequest.Yaml.Node.Basic

/-!
# Merge keys

A merge key is taken out of its mapping, and the entries of the mappings that it names are put in front of
those of the mapping itself, which therefore win. The mappings that are named have their own merge keys
resolved first, once and for all: whoever else leads to them finds them resolved. So every step leaves fewer
merge keys in the graph, also where mappings name each other.
-/

namespace SearchRequest.Yaml

namespace Graph

def isMerge (g : Graph) (entry : NodeEntry) : Bool := g.tag entry.1 = .merge

/-- The number of merge keys in all mappings. -/
def mergeCount (g : Graph) : Nat :=
  g.nodes.foldl (fun n node =>
    match node.content with
    | .mapping entries => n + entries.countP g.isMerge
    | _ => n) 0

/-- What the first merge key of a mapping names, and the graph without that key. -/
def takeMerge? (g : Graph) (id : NodeId) : Option (NodeId × Graph) :=
  let entries := g.entries id
  match entries.find? g.isMerge with
  | some (_, named) => some (named, g.setEntries id (entries.eraseP g.isMerge))
  | none => none

/-- The graph with the keys of entries as texts where they stand for a default value. -/
def textKeys (g : Graph) (entries : List NodeEntry) : Graph :=
  entries.foldl (fun g (key, _) => if g.tag key = .value then g.retag key .str else g) g

/-- The graph with entries in front of those of a mapping, whose merge keys are all resolved. -/
def putMerged (g : Graph) (id : NodeId) (merged : List NodeEntry) : Graph :=
  let own := g.entries id
  (g.textKeys own).setEntries id (merged ++ own)

/-- The graph with the merge keys of a mapping resolved, after those that gave the entries `merged`. Of
several mappings that one key names the first wins, so its entries come last. -/
def resolveWith : Nat → NodeId → List NodeEntry → Graph → Except Fault Graph
  | 0, id, merged, g => .ok (g.putMerged id merged)
  | fuel + 1, id, merged, g =>
    match g.takeMerge? id with
    | none => .ok (g.putMerged id merged)
    | some (named, g) =>
      match g.content named with
      | .mapping _ => do
        let g ← resolveWith fuel named [] g
        resolveWith fuel id (merged ++ g.entries named) g
      | .sequence items => do
        let (more, g) ← items.foldlM (fun (more, g) item =>
          match g.content item with
          | .mapping _ => do
            let g ← resolveWith fuel item [] g
            pure (g.entries item ++ more, g)
          | _ => .error (.malformed .merge)) ([], g)
        resolveWith fuel id (merged ++ more) g
      | .scalar _ => .error (.malformed .merge)

/-- The graph with the merge keys of a mapping resolved. A mapping without any keeps its entries. -/
def resolveMerges (g : Graph) (id : NodeId) : Except Fault Graph :=
  let own := g.entries id
  if own.any g.isMerge then resolveWith g.mergeCount id [] g else .ok (g.textKeys own)

end Graph

end SearchRequest.Yaml
