import SearchRequest.Yaml.Node.Basic
import SearchRequest.Yaml.Token.Scan

/-!
# From tokens to nodes

The grammar of a document, read from left to right with one token of foresight. Nodes that an indicator
promises and no token gives are empty scalars. A node has its number, and its name where it has one, before
its content is read, so that an alias inside it leads back to it. The place where no further token can be
read is a fault as soon as it is looked at.
-/

namespace SearchRequest.Yaml

/-- How far the reading of nodes has come. -/
structure Reader where
  tokens : List Token
  /-- The nodes so far. -/
  graph : Graph
  /-- The nodes named so far. -/
  anchors : List (List Char × NodeId)
  handles : List (List Char × List Char)

/-- A node and what follows it. -/
abbrev NodeRead := Except Fault (NodeId × Reader)

/-- The items of a sequence and what follows them. -/
abbrev ItemsRead := Except Fault (List NodeId × Reader)

/-- The entries of a mapping and what follows them. -/
abbrev EntriesRead := Except Fault (List NodeEntry × Reader)

/-- Where a node stands. -/
inductive Place where
  | flow
  | block
  /-- The key or value of a block mapping, where a sequence needs no indentation. -/
  | blockEntry
  deriving DecidableEq

/-- The properties in front of a node. -/
structure Properties where
  anchor : Option (List Char)
  /-- The full name of the tag. -/
  tag : Option (List Char)

namespace Properties

def none : Properties := ⟨.none, .none⟩

def isNone (p : Properties) : Bool := p.anchor.isNone && p.tag.isNone

/-- The tag that the properties give, or a default. A single exclamation mark leaves it to the node. -/
def tagOr (p : Properties) (default : Tag) : Tag :=
  match p.tag with
  | some name => if name = ['!'] then default else .ofName name
  | .none => default

/-- The tag of a scalar: a plain one, or one with an exclamation mark alone, has the tag of its text. -/
def scalarTag (p : Properties) (text : List Char) (plain : Bool) : Tag :=
  p.tagOr (if plain || p.tag.isSome then .ofPlain text else .str)

end Properties

namespace Reader

def drop (r : Reader) : Reader := { r with tokens := r.tokens.drop 1 }

def next? (r : Reader) : Option Token := r.tokens.head?

/-- The fault of a token that does not fit: its own if it stands for one. -/
def unexpected (r : Reader) : Fault :=
  match r.next? with
  | some (.fault f) => f
  | _ => .malformed .grammar

/-- The reader, if its next token can be read. -/
def look (r : Reader) : Except Fault Reader :=
  match r.next? with
  | some (.fault f) => .error f
  | _ => .ok r

/-- Whether the next token is one of the given ones. -/
def isAt (r : Reader) (tokens : List Token) : Bool := r.next?.any tokens.contains

/-- A new node. -/
def add (r : Reader) (n : Node) : NodeId × Reader := (r.graph.next, { r with graph := r.graph.add n })

/-- A new scalar without text. -/
def addEmpty (r : Reader) : NodeId × Reader := r.add ⟨.null, .scalar []⟩

/-- The reader with the tag and content of a node. -/
def fill (r : Reader) (id : NodeId) (tag : Tag) (content : Content) : Reader :=
  { r with graph := r.graph.set id ⟨tag, content⟩ }

/-! ## Properties -/

/-- The full name of a tag. -/
def tagName (r : Reader) (handle : Option (List Char)) (suffix : List Char) :
    Except Fault (List Char) :=
  match handle with
  | none => .ok suffix
  | some name =>
    match r.handles.find? (·.1 == name) with
    | some (_, meaning) => .ok (meaning ++ suffix)
    | none => .error (.malformed .tagHandle)

/-- The properties at the position: an anchor, a tag or both, and the token behind them. -/
def properties (r : Reader) : Except Fault (Properties × Reader) :=
  match r.tokens with
  | .anchor a :: .tag h s :: rest | .tag h s :: .anchor a :: rest => do
    let name ← r.tagName h s
    let r ← { r with tokens := rest }.look
    pure (⟨some a, some name⟩, r)
  | .anchor a :: rest => do
    let r ← { r with tokens := rest }.look
    pure (⟨some a, none⟩, r)
  | .tag h s :: rest => do
    let r ← { r with tokens := rest }.look
    pure (⟨none, some (← r.tagName h s)⟩, r)
  | _ => .ok (.none, r)

/-- A new node whose content is still to be read, under a name if it has one. -/
def announce (r : Reader) (name : Option (List Char)) : NodeRead :=
  let (id, r) := r.add ⟨.undefined, .scalar []⟩
  match name with
  | none => .ok (id, r)
  | some name =>
    if r.anchors.any (·.1 == name) then .error (.malformed .duplicateAnchor)
    else .ok (id, { r with anchors := (name, id) :: r.anchors })

/-- The node that an alias stands for. -/
def named (r : Reader) (name : List Char) : Except Fault NodeId :=
  match r.anchors.find? (·.1 == name) with
  | some (_, id) => .ok id
  | none => .error (.malformed .undefinedAlias)

/-! ## Nodes -/

/-- Whether the next token starts the content of a node. -/
def startsContent (r : Reader) (place : Place) : Bool :=
  match r.next? with
  | some (.scalar _ _) | some .flowSequenceStart | some .flowMappingStart => true
  | some .blockSequenceStart | some .blockMappingStart => place != .flow
  | some .blockEntry => place == .blockEntry
  | _ => false

mutual

def node : Nat → Place → Reader → NodeRead
  | 0, _, r => .error r.unexpected
  | fuel + 1, place, r =>
    match r.next? with
    | some (.alias name) => do pure (← r.named name, r.drop)
    | _ => do
      let (p, r) ← r.properties
      if r.startsContent place || !p.isNone then do
        let (id, r) ← r.announce p.anchor
        pure (id, ← content fuel place p id r)
      else .error r.unexpected

/-- The reader with what stands behind the properties of a node, an empty scalar where no content follows. -/
def content : Nat → Place → Properties → NodeId → Reader → Except Fault Reader
  | 0, _, _, _, r => .error r.unexpected
  | fuel + 1, place, p, id, r =>
    if !r.startsContent place then .ok (r.fill id (p.scalarTag [] true) (.scalar []))
    else match r.next? with
    | some (.scalar text plain) => .ok (r.drop.fill id (p.scalarTag text plain) (.scalar text))
    | some .flowSequenceStart => do
      let (items, r) ← flowItems fuel true r.drop
      pure (r.fill id (p.tagOr .seq) (.sequence items))
    | some .flowMappingStart => do
      let (entries, r) ← flowEntries fuel true r.drop
      pure (r.fill id (p.tagOr .map) (.mapping entries))
    | some .blockSequenceStart => do
      let (items, r) ← blockItems fuel r.drop
      pure (r.fill id (p.tagOr .seq) (.sequence items))
    | some .blockMappingStart => do
      let (entries, r) ← blockEntries fuel r.drop
      pure (r.fill id (p.tagOr .map) (.mapping entries))
    | _ => do
      let (items, r) ← indentlessItems fuel r
      pure (r.fill id (p.tagOr .seq) (.sequence items))

/-- A node, or an empty scalar in front of one of the given tokens. -/
def nodeUnless : Nat → Place → List Token → Reader → NodeRead
  | 0, _, _, r => .error r.unexpected
  | fuel + 1, place, ends, r => if r.isAt ends then .ok r.addEmpty else node fuel place r

def blockItems : Nat → Reader → ItemsRead
  | 0, r => .error r.unexpected
  | fuel + 1, r =>
    match r.next? with
    | some .blockEntry => do
      let (item, r) ← nodeUnless fuel .block [.blockEntry, .blockEnd] r.drop
      let (items, r) ← blockItems fuel r
      pure (item :: items, r)
    | some .blockEnd => .ok ([], r.drop)
    | _ => .error r.unexpected

def indentlessItems : Nat → Reader → ItemsRead
  | 0, r => .error r.unexpected
  | fuel + 1, r =>
    match r.next? with
    | some .blockEntry => do
      let (item, r) ← nodeUnless fuel .block [.blockEntry, .key, .value, .blockEnd] r.drop
      let (items, r) ← indentlessItems fuel r
      pure (item :: items, r)
    | _ => .ok ([], r)

/-- The value of a mapping entry, empty where no colon stands. -/
def entryValue : Nat → Place → List Token → Reader → NodeRead
  | 0, _, _, r => .error r.unexpected
  | fuel + 1, place, ends, r =>
    match r.next? with
    | some .value => nodeUnless fuel place ends r.drop
    | _ => .ok r.addEmpty

def blockEntries : Nat → Reader → EntriesRead
  | 0, r => .error r.unexpected
  | fuel + 1, r =>
    match r.next? with
    | some .key => do
      let (key, r) ← nodeUnless fuel .blockEntry [.key, .value, .blockEnd] r.drop
      let (value, r) ← entryValue fuel .blockEntry [.key, .value, .blockEnd] r
      let (entries, r) ← blockEntries fuel r
      pure ((key, value) :: entries, r)
    | some .blockEnd => .ok ([], r.drop)
    | _ => .error r.unexpected

/-- The items of a sequence in brackets; all but the first stand behind a comma, and a comma may end it. -/
def flowItems : Nat → Bool → Reader → ItemsRead
  | 0, _, r => .error r.unexpected
  | fuel + 1, first, r =>
    match r.next?, first with
    | some .flowSequenceEnd, _ => .ok ([], r.drop)
    | some .flowEntry, false =>
      if r.drop.isAt [.flowSequenceEnd] then .ok ([], r.drop.drop) else flowItem fuel r.drop
    | _, true => flowItem fuel r
    | _, false => .error r.unexpected

/-- One item of a sequence in brackets and those after it. A key makes it a mapping of one entry. -/
def flowItem : Nat → Reader → ItemsRead
  | 0, r => .error r.unexpected
  | fuel + 1, r =>
    match r.next? with
    | some .key => do
      let (key, r) ← nodeUnless fuel .flow [.value, .flowEntry, .flowSequenceEnd] r.drop
      let (value, r) ← entryValue fuel .flow [.flowEntry, .flowSequenceEnd] r
      let (item, r) := r.add ⟨.map, .mapping [(key, value)]⟩
      let (items, r) ← flowItems fuel false r
      pure (item :: items, r)
    | _ => do
      let (item, r) ← node fuel .flow r
      let (items, r) ← flowItems fuel false r
      pure (item :: items, r)

/-- The entries of a mapping in braces; all but the first stand behind a comma, and a comma may end it. -/
def flowEntries : Nat → Bool → Reader → EntriesRead
  | 0, _, r => .error r.unexpected
  | fuel + 1, first, r =>
    match r.next?, first with
    | some .flowMappingEnd, _ => .ok ([], r.drop)
    | some .flowEntry, false =>
      if r.drop.isAt [.flowMappingEnd] then .ok ([], r.drop.drop) else flowEntry fuel r.drop
    | _, true => flowEntry fuel r
    | _, false => .error r.unexpected

/-- One entry of a mapping in braces and those after it. A node without a key has an empty value. -/
def flowEntry : Nat → Reader → EntriesRead
  | 0, r => .error r.unexpected
  | fuel + 1, r =>
    match r.next? with
    | some .key => do
      let (key, r) ← nodeUnless fuel .flow [.value, .flowEntry, .flowMappingEnd] r.drop
      let (value, r) ← entryValue fuel .flow [.flowEntry, .flowMappingEnd] r
      let (entries, r) ← flowEntries fuel false r
      pure ((key, value) :: entries, r)
    | _ => do
      let (key, r) ← node fuel .flow r
      let (value, r) := r.addEmpty
      let (entries, r) ← flowEntries fuel false r
      pure ((key, value) :: entries, r)

end

/-! ## Documents -/

def defaultHandles : List (List Char × List Char) :=
  [(['!'], ['!']), (['!', '!'], Tag.standardPrefixText.toList)]

/-- The directives of a document: at most one version, and each handle once. -/
def directives : List Token → Bool → List (List Char × List Char) →
    Except Fault (List (List Char × List Char) × List Token)
  | .directive (.version major) :: rest, versioned, handles =>
    if versioned || major != 1 then .error (.malformed .version) else directives rest true handles
  | .directive (.handle name meaning) :: rest, versioned, handles =>
    if handles.any (·.1 == name) then .error (.malformed .tagHandle)
    else directives rest versioned ((name, meaning) :: handles)
  | .directive .other :: rest, versioned, handles => directives rest versioned handles
  | tokens, _, handles => .ok (handles ++ defaultHandles, tokens)

def isDirective : Token → Bool
  | .directive _ => true
  | _ => false

/-- A bound on the depth of calls that a list of tokens can cause. -/
def depthBound (tokens : List Token) : Nat := 4 * tokens.length + 8

def start (tokens : List Token) (handles : List (List Char × List Char)) : Reader :=
  ⟨tokens, .empty, [], handles⟩

/-- The node of a document that starts without a separator. -/
def bareDocument (tokens : List Token) : NodeRead :=
  node (depthBound tokens) .block (start tokens defaultHandles)

/-- The reader behind the directives of a document and its separator. -/
def separator (tokens : List Token) : Except Fault Reader := do
  let (handles, tokens) ← directives tokens false []
  let r := start tokens handles
  if r.isAt [.documentStart] then pure r.drop else .error r.unexpected

/-- The node of a document behind its separator. -/
def explicitDocument (tokens : List Token) : NodeRead := do
  let r ← separator tokens
  if r.isAt [.documentStart, .documentEnd, .streamEnd] || r.next?.any isDirective then pure r.addEmpty
  else node (depthBound tokens) .block r

/-- The end of the only document. -/
def finish (r : Reader) : Except Fault Unit :=
  let tokens := r.tokens.dropWhile (· == Token.documentEnd)
  if tokens.head? = some .streamEnd then .ok ()
  else do
    let _ ← separator tokens
    .error (.malformed .severalDocuments)

end Reader

/-- The nodes of the single document that tokens write; there are none where they write no document. -/
def Tree.ofTokens (tokens : List Token) : Except Fault (Option Tree) :=
  match tokens with
  | [.streamEnd] => .ok none
  | first :: _ => do
    let (root, r) ← if first == .documentStart || Reader.isDirective first then
        Reader.explicitDocument tokens
      else Reader.bareDocument tokens
    r.finish
    pure (some ⟨r.graph, root⟩)
  | [] => .ok none

end SearchRequest.Yaml
