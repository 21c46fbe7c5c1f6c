import SearchRequest.Yaml.Scalar.Block
import SearchRequest.Yaml.Scalar.Plain
import SearchRequest.Yaml.Token.Property

/-!
# From text to tokens

Tokens are read one after another. Outside brackets the column of a token says which block collections it
ends and whether it starts one. A token that may turn out to be a key is remembered with its place: when its
colon comes, on the same line and within 1024 characters, the tokens for a key, and for a mapping if one
starts here, are put in front of it.
-/

namespace SearchRequest.Yaml

/-- A token that may turn out to be a key. -/
structure SimpleKey where
  /-- The number of tokens before it. -/
  place : Nat
  /-- Whether no other reading is possible, because it stands at the indentation of its block. -/
  required : Bool
  index : Nat
  line : Nat
  column : Nat

/-- How far the reading of tokens has come. -/
structure Scan where
  cursor : Cursor
  /-- The tokens read so far, the last one first. -/
  tokens : List Token
  count : Nat
  /-- The number of open brackets. -/
  flow : Nat
  /-- The column of the innermost open block, and of those around it. -/
  indent : Int
  outer : List Int
  simpleKeyAllowed : Bool
  /-- The possible key of each level of brackets. -/
  keys : List (Nat × SimpleKey)
  finished : Bool

namespace Scan

def start (text : List Char) : Scan where
  cursor := .ofText (if text.head? = some byteOrderMark then text.drop 1 else text)
  tokens := []
  count := 0
  flow := 0
  indent := -1
  outer := []
  simpleKeyAllowed := true
  keys := []
  finished := false

def inFlow (s : Scan) : Bool := s.flow != 0

def push (s : Scan) (t : Token) : Scan := { s with tokens := t :: s.tokens, count := s.count + 1 }

/-- The tokens with another one put in at a place. -/
def insert (s : Scan) (place : Nat) (t : Token) : Scan :=
  let after := s.count - place
  { s with tokens := s.tokens.take after ++ t :: s.tokens.drop after, count := s.count + 1 }

/-- A token and the position after it. -/
def accept (s : Scan) (t : Token) (c : Cursor) : Scan := { s.push t with cursor := c }

/-- A token of the given length. -/
def acceptNext (s : Scan) (t : Token) (length : Nat) : Scan := s.accept t (s.cursor.advance length)

/-! ## Possible keys -/

def key? (s : Scan) : Option SimpleKey := (s.keys.find? (·.1 == s.flow)).map (·.2)

/-- Whether a remembered token can no longer be a key. -/
def isStale (s : Scan) (k : SimpleKey) : Bool :=
  k.line != s.cursor.line || decide (1024 < s.cursor.index - k.index)

/-- The scan without the possible keys that have become impossible. -/
def dropStale (s : Scan) : Except Fault Scan :=
  if s.keys.any fun k => s.isStale k.2 && k.2.required then .error (.malformed .simpleKey)
  else .ok { s with keys := s.keys.filter fun k => !s.isStale k.2 }

/-- The scan without the possible key of the current level. -/
def dropKey (s : Scan) : Except Fault Scan :=
  match s.key? with
  | some k =>
    if k.required then .error (.malformed .simpleKey)
    else .ok { s with keys := s.keys.filter (·.1 != s.flow) }
  | none => .ok s

/-- The next token remembered as a possible key, where one is allowed. -/
def saveKey (s : Scan) : Except Fault Scan :=
  if s.simpleKeyAllowed then do
    let s ← s.dropKey
    let k : SimpleKey :=
      { place := s.count
        required := !s.inFlow && s.indent == s.cursor.column
        index := s.cursor.index
        line := s.cursor.line
        column := s.cursor.column }
    pure { s with keys := (s.flow, k) :: s.keys }
  else .ok s

/-! ## Indentation -/

/-- The end of every open block that lies deeper than a column. -/
def unwindFrom (column : Int) : List Int → Scan → Scan
  | [], s => s
  | previous :: outer, s =>
    if column < s.indent then
      unwindFrom column outer { s.push .blockEnd with indent := previous, outer := outer }
    else s

def unwind (s : Scan) (column : Int) : Scan :=
  if s.inFlow then s else unwindFrom column s.outer s

/-- A block that starts at a column, if that lies deeper than the innermost open one; its token is put in at
the given place. -/
def openBlock (s : Scan) (column place : Nat) (t : Token) : Scan :=
  if s.indent < column then
    { s.insert place t with indent := column, outer := s.indent :: s.outer }
  else s

/-! ## Gaps -/

/-- The position of the next token: spaces, comments and line breaks are passed over, and outside brackets a
key may follow a line break. -/
def skipGap : Nat → Scan → Scan
  | 0, s => s
  | fuel + 1, s =>
    let c := s.cursor.skipSpaces.skipComment
    if isBreak c.peek then
      skipGap fuel
        { s with cursor := c.lineBreak.2, simpleKeyAllowed := s.simpleKeyAllowed || !s.inFlow }
    else { s with cursor := c }

/-! ## Tokens -/

def readEnd (s : Scan) : Except Fault Scan := do
  let s ← (s.unwind (-1)).dropKey
  pure { s.push .streamEnd with simpleKeyAllowed := false, keys := [], finished := true }

def readDirective (s : Scan) : Except Fault Scan := do
  let s ← (s.unwind (-1)).dropKey
  let (t, c) ← Property.directive s.cursor
  pure { s.accept t c with simpleKeyAllowed := false }

def readSeparator (s : Scan) (t : Token) : Except Fault Scan := do
  let s ← (s.unwind (-1)).dropKey
  pure { s.acceptNext t 3 with simpleKeyAllowed := false }

def readFlowStart (s : Scan) (t : Token) : Except Fault Scan := do
  let s ← s.saveKey
  pure { s.acceptNext t 1 with flow := s.flow + 1, simpleKeyAllowed := true }

def readFlowEnd (s : Scan) (t : Token) : Except Fault Scan := do
  let s ← s.dropKey
  if s.inFlow then pure { s.acceptNext t 1 with flow := s.flow - 1, simpleKeyAllowed := false }
  else .error (.malformed .grammar)

def readFlowEntry (s : Scan) : Except Fault Scan := do
  let s ← s.dropKey
  pure { s.acceptNext .flowEntry 1 with simpleKeyAllowed := true }

/-- A token of a block collection, which starts the collection where it lies deeper than the open ones. -/
def openBlockHere (s : Scan) (t : Token) : Except Fault Scan :=
  if s.inFlow then .ok s
  else if s.simpleKeyAllowed then .ok (s.openBlock s.cursor.column s.count t)
  else .error (.malformed .indentation)

def readBlockEntry (s : Scan) : Except Fault Scan := do
  let s ← s.openBlockHere .blockSequenceStart
  let s ← s.dropKey
  pure { s.acceptNext .blockEntry 1 with simpleKeyAllowed := true }

def readKey (s : Scan) : Except Fault Scan := do
  let s ← s.openBlockHere .blockMappingStart
  let s ← s.dropKey
  pure { s.acceptNext .key 1 with simpleKeyAllowed := !s.inFlow }

def readValue (s : Scan) : Except Fault Scan :=
  match s.key? with
  | some k =>
    let s := { s with keys := s.keys.filter (·.1 != s.flow) }
    let s := s.insert k.place .key
    let s := if s.inFlow then s else s.openBlock k.column k.place .blockMappingStart
    .ok { s.acceptNext .value 1 with simpleKeyAllowed := false }
  | none => do
    let s ← s.openBlockHere .blockMappingStart
    let s ← s.dropKey
    pure { s.acceptNext .value 1 with simpleKeyAllowed := !s.inFlow }

/-- A token that may turn out to be a key. -/
def readKeyLike (s : Scan) (scanned : Cursor → Scanned) : Except Fault Scan := do
  let s ← s.saveKey
  let (t, c) ← scanned s.cursor
  pure { s.accept t c with simpleKeyAllowed := false }

def readAlias (s : Scan) : Except Fault Scan :=
  s.readKeyLike fun c => do
    let (name, c) ← Property.name c
    pure (.alias name, c)

def readAnchor (s : Scan) : Except Fault Scan :=
  s.readKeyLike fun c => do
    let (name, c) ← Property.name c
    pure (.anchor name, c)

def readQuoted (s : Scan) : Except Fault Scan :=
  s.readKeyLike fun c => do
    let (text, c) ← Quoted.scan c
    pure (.scalar text false, c)

def readBlockScalar (s : Scan) (folded : Bool) : Except Fault Scan := do
  let s ← s.dropKey
  let (text, c) ← Block.scan folded s.indent s.cursor
  pure { s.accept (.scalar text false) c with simpleKeyAllowed := true }

def readPlain (s : Scan) : Except Fault Scan := do
  let s ← s.saveKey
  let (text, lineEnded, c) := Plain.scan s.inFlow s.indent s.cursor
  pure { s.accept (.scalar text true) c with simpleKeyAllowed := lineEnded }

/-- The next token, at whose first character the scan stands. -/
def readToken (s : Scan) : Except Fault Scan :=
  let c := s.cursor
  let gapFollows := isGapOrEnd (c.peekAt 1)
  match c.peek with
  | '\x00' => s.readEnd
  | '[' => s.readFlowStart .flowSequenceStart
  | '\x7b' => s.readFlowStart .flowMappingStart
  | ']' => s.readFlowEnd .flowSequenceEnd
  | '\x7d' => s.readFlowEnd .flowMappingEnd
  | ',' => s.readFlowEntry
  | '*' => s.readAlias
  | '&' => s.readAnchor
  | '!' => s.readKeyLike Property.tag
  | '\x27' => s.readQuoted
  | '"' => s.readQuoted
  | ch =>
    if ch == '%' && c.column == 0 then s.readDirective
    else if c.column == 0 && c.atMarker '-' then s.readSeparator .documentStart
    else if c.column == 0 && c.atMarker '.' then s.readSeparator .documentEnd
    else if ch == '-' && gapFollows then s.readBlockEntry
    else if ch == '?' && (s.inFlow || gapFollows) then s.readKey
    else if ch == ':' && (s.inFlow || gapFollows) then s.readValue
    else if ch == '|' && !s.inFlow then s.readBlockScalar false
    else if ch == '>' && !s.inFlow then s.readBlockScalar true
    else if Plain.startsAt s.inFlow c then s.readPlain
    else .error (.malformed .token)

/-- The scan one token further on. -/
def step (s : Scan) : Except Fault Scan := do
  let s ← (s.skipGap s.cursor.budget).dropStale
  (s.unwind s.cursor.column).readToken

/-- The number of tokens that are certain. One that may still turn out to be a key is not, nor are those
after it, because the tokens for a key would come first. -/
def certain (s : Scan) : Nat :=
  (s.keys.filter fun k => !s.isStale k.2).foldl (fun n k => min n k.2.place) s.count

/-- The tokens from the scan on. Where no further token can be read, the fault stands behind those that are
certain. -/
def run : Nat → Scan → List Token
  | 0, s => s.tokens.reverse
  | fuel + 1, s =>
    if s.finished then s.tokens.reverse
    else match s.step with
      | .ok s => run fuel s
      | .error f => s.tokens.reverse.take s.certain ++ [.fault f]

end Scan

/-- The tokens of a text. -/
def Token.ofText (text : List Char) : List Token :=
  if text.all isAllowed then Scan.run (text.length + 2) (.start text)
  else [.fault (.malformed .character)]

end SearchRequest.Yaml
