import SearchRequest.Text.Utf8
import SearchRequest.Yaml.Scalar.Quoted
import SearchRequest.Yaml.Token.Basic

/-!
# Directives, anchors and tags

The tokens in front of documents and nodes.
-/

namespace SearchRequest.Yaml

/-- A token and the position after it. -/
abbrev Scanned := Except Fault (Token × Cursor)

namespace Property

/-- The word at the position. -/
def word (why : Malformed) (c : Cursor) : Except Fault (List Char × Cursor) :=
  let (name, c) := c.span isWord
  if name.isEmpty then .error (.malformed why) else .ok (name, c)

/-- A character that may stand behind an anchor or alias. -/
def endsName (c : Char) : Bool :=
  isGapOrEnd c || ['?', ':', ',', ']', '}', '%', '@', '\x60'].contains c

/-- The name after the indicator of an anchor or alias. -/
def name (c : Cursor) : Except Fault (List Char × Cursor) := do
  let (name, c) ← word .anchor c.next
  if endsName c.peek then pure (name, c) else .error (.malformed .anchor)

def isUri (c : Char) : Bool :=
  c.isAlphanum || [
    '-', ';', '/', '?', ':', '@', '&', '=', '+', '$', ',', '_', '.', '!', '~', '*', '\x27', '(', ')', '[',
    ']'].contains c

/-- The bytes that escapes of two hexadecimal digits write. -/
def escapedBytes : Nat → Cursor → Except Fault (List UInt8 × Cursor)
  | 0, c => .ok ([], c)
  | fuel + 1, c =>
    if c.peek == '%' then
      let c := c.next
      match Quoted.hexNumber? [c.peek, c.peekAt 1] with
      | none => .error (.malformed .tag)
      | some n => do
        let (others, c) ← escapedBytes fuel (c.advance 2)
        pure (UInt8.ofNat n :: others, c)
    else .ok ([], c)

/-- The part of a tag at the position. -/
def uriFrom : Nat → Cursor → Except Fault (List Char × Cursor)
  | 0, c => .ok ([], c)
  | fuel + 1, c =>
    if c.peek == '%' then do
      let (bytes, c) ← escapedBytes c.budget c
      match Text.Utf8.decode bytes with
      | .error _ => .error (.malformed .tag)
      | .ok text =>
        let (others, c) ← uriFrom fuel c
        pure (text ++ others, c)
    else if isUri c.peek then do
      let (plain, c) := c.span isUri
      let (others, c) ← uriFrom fuel c
      pure (plain ++ others, c)
    else .ok ([], c)

/-- The part of a tag at the position, which must not be empty. -/
def uri (c : Cursor) : Except Fault (List Char × Cursor) :=
  if c.peek == '%' || isUri c.peek then uriFrom c.budget c else .error (.malformed .tag)

/-- The handle at the position: an exclamation mark, or a word between two. -/
def handle (c : Cursor) : Except Fault (List Char × Cursor) :=
  if c.peek != '!' then .error (.malformed .tag)
  else
    let c := c.next
    if c.peek == ' ' then .ok (['!'], c)
    else
      let (name, c) := c.span isWord
      if c.peek == '!' then .ok ('!' :: (name ++ ['!']), c.next) else .error (.malformed .tag)

/-- Whether another exclamation mark follows before the tag ends. -/
def hasHandle (c : Cursor) : Bool := (c.rest.takeWhile (!isSpaceOrEnd ·)).contains '!'

/-- The handle and suffix of the tag at the position. -/
def tagParts (c : Cursor) : Except Fault (Option (List Char) × List Char × Cursor) :=
  let ch := c.peekAt 1
  if ch == '<' then do
    let (suffix, c) ← uri (c.advance 2)
    if c.peek == '>' then pure (none, suffix, c.next) else .error (.malformed .tag)
  else if isGapOrEnd ch then .ok (none, ['!'], c.next)
  else do
    let (h, c) ← if hasHandle c.next then handle c else pure (['!'], c.next)
    let (suffix, c) ← uri c
    pure (some h, suffix, c)

def tag (c : Cursor) : Scanned := do
  let (h, suffix, c) ← tagParts c
  if isSpaceOrEnd c.peek then pure (.tag h suffix, c) else .error (.malformed .tag)

/-- The number at the position. -/
def number (c : Cursor) : Except Fault (Nat × Cursor) :=
  let (digits, c) := c.span Char.isDigit
  if digits.isEmpty then .error (.malformed .directive)
  else .ok (digits.foldl (fun n d => n * 10 + (d.toNat - '0'.toNat)) 0, c)

/-- What stands behind the name of a directive. -/
def directiveValue (name : List Char) (c : Cursor) : Except Fault (Directive × Cursor) :=
  if name = ['Y', 'A', 'M', 'L'] then do
    let (major, c) ← number c.skipSpaces
    if c.peek != '.' then .error (.malformed .directive)
    else
      let (_, c) ← number c.next
      if isSpaceOrEnd c.peek then pure (.version major, c) else .error (.malformed .directive)
  else if name = ['T', 'A', 'G'] then do
    let (h, c) ← handle c.skipSpaces
    if c.peek != ' ' then .error (.malformed .directive)
    else
      let (meaning, c) ← uri c.skipSpaces
      if isSpaceOrEnd c.peek then pure (.handle h meaning, c) else .error (.malformed .directive)
  else .ok (.other, c.skip (!isBreak ·))

/-- The directive at the position and the start of the next line. -/
def directive (c : Cursor) : Scanned := do
  let (name, c) ← word .directive c.next
  if !isSpaceOrEnd c.peek then .error (.malformed .directive)
  else
    let (d, c) ← directiveValue name c
    let c := c.skipSpaces.skipComment
    if isBreakOrEnd c.peek then pure (.directive d, c.lineBreak.2)
    else .error (.malformed .directive)

end Property

end SearchRequest.Yaml
