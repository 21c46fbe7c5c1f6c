import SearchRequest.Yaml.Scalar.Quoted

/-!
# Block scalars

The text of a scalar in indented lines below its header. A literal one keeps its lines as they are, a folded
one joins lines that start at the indentation. The header may give the indentation, and says what becomes of
the line breaks at the end.
-/

namespace SearchRequest.Yaml

namespace Block

/-- What becomes of the breaks at the end: one is kept, none, or all. -/
inductive Chomping where
  | clip
  | strip
  | keep
  deriving DecidableEq

structure Header where
  chomping : Chomping
  /-- The indentation of the text beyond that of its parent, if the header gives it. -/
  increment : Option Nat

def chomping? (c : Char) : Option Chomping :=
  match c with
  | '+' => some .keep
  | '-' => some .strip
  | _ => none

/-- The increment at the position. -/
def increment (c : Cursor) : Except Fault (Option Nat × Cursor) :=
  if c.peek.isDigit then
    if c.peek == '0' then .error (.malformed .blockHeader)
    else .ok (some (c.peek.toNat - '0'.toNat), c.next)
  else .ok (none, c)

/-- The indicators of a header, in either order. -/
def indicators (c : Cursor) : Except Fault (Header × Cursor) :=
  match chomping? c.peek with
  | some chomping => do
    let (n, c) ← increment c.next
    pure (⟨chomping, n⟩, c)
  | none => do
    let (n, c) ← increment c
    match n, chomping? c.peek with
    | some _, some chomping => pure (⟨chomping, n⟩, c.next)
    | _, _ => pure (⟨.clip, n⟩, c)

/-- The header after its first character, and the start of the next line. -/
def header (c : Cursor) : Except Fault (Header × Cursor) := do
  let (h, c) ← indicators c
  if !isSpaceOrEnd c.peek then .error (.malformed .blockHeader)
  else
    let c := c.skipSpaces.skipComment
    if !isBreakOrEnd c.peek then .error (.malformed .blockHeader)
    else pure (h, c.lineBreak.2)

/-- The empty lines in front of the text, and the deepest column that their spaces reach. -/
def indentation : Nat → Cursor → Nat → List Char × Nat × Cursor
  | 0, c, deepest => ([], deepest, c)
  | fuel + 1, c, deepest =>
    if c.peek == ' ' then
      let c := c.next
      indentation fuel c (max deepest c.column)
    else if isBreak c.peek then
      let (first, c) := c.lineBreak
      let (others, deepest, c) := indentation fuel c deepest
      (first ++ others, deepest, c)
    else ([], deepest, c)

/-- The position after spaces up to a column. -/
def indentTo (indent : Nat) (c : Cursor) : Cursor :=
  c.advance (min (indent - c.column) (c.rest.takeWhile (· == ' ')).length)

/-- The empty lines at the position, and the indentation after them. -/
def breaks (indent : Nat) : Nat → Cursor → List Char × Cursor
  | 0, c => ([], c)
  | fuel + 1, c =>
    let c := indentTo indent c
    if isBreak c.peek then
      let (first, c) := c.lineBreak
      let (others, c) := breaks indent fuel c
      (first ++ others, c)
    else ([], c)

/-- What stands between two lines of text: in a folded scalar a space or the empty lines, unless one of the
lines is indented further. -/
def joint (folded : Bool) (lineBreak empties : List Char) (first next : Char) : List Char :=
  if folded && lineBreak == ['\n'] && !isSpaceOrTab first && !isSpaceOrTab next then
    if empties.isEmpty then [' '] else []
  else lineBreak

/-- The lines of the text from the position on, after the given empty lines. -/
def lines (folded : Bool) (chomping : Chomping) (indent : Nat) :
    Nat → Cursor → List Char → List Char × Cursor
  | 0, c, _ => ([], c)
  | fuel + 1, c, empties =>
    let first := c.peek
    let (text, c) := c.span (!isBreak ·)
    let (lineBreak, c) := c.lineBreak
    let (after, c) := breaks indent c.budget c
    if c.column == indent && c.peek != endMark then
      let between := joint folded lineBreak after first c.peek
      let (others, c) := lines folded chomping indent fuel c after
      (empties ++ text ++ between ++ others, c)
    else
      let tail := match chomping with
        | .clip => lineBreak
        | .strip => []
        | .keep => lineBreak ++ after
      (empties ++ text ++ tail, c)

/-- The text of the block scalar whose header starts at the position, below a parent at the given
indentation. -/
def scan (folded : Bool) (parent : Int) (c : Cursor) : Piece := do
  let (h, c) ← header c.next
  let least := max 1 (parent + 1).toNat
  let (empties, indent, c) := match h.increment with
    | some n =>
      let indent := least + n - 1
      let (empties, c) := breaks indent c.budget c
      (empties, indent, c)
    | none =>
      let (empties, deepest, c) := indentation c.budget c 0
      (empties, max least deepest, c)
  if c.column == indent && c.peek != endMark then
    pure (lines folded h.chomping indent c.budget c empties)
  else pure (if h.chomping == .keep then empties else [], c)

end Block

end SearchRequest.Yaml
