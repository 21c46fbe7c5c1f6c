import SearchRequest.Yaml.Scalar.Quoted

/-!
# Plain scalars

The text of a scalar without quotes. It ends at a comment, at a colon that has a gap behind it, at a line
that is not indented below its parent, and inside brackets also at an indicator of these. Its line breaks are
folded.
-/

namespace SearchRequest.Yaml

namespace Plain

/-- The indicators that end a plain scalar inside brackets. -/
def isFlowIndicator (c : Char) : Bool := c == ',' || c == '[' || c == ']' || c == '{' || c == '}'

/-- The indicators that start no plain scalar. -/
def indicators : List Char :=
  ['-', '?', ':', ',', '[', ']', '{', '}', '#', '&', '*', '!', '|', '>', '\x27', '"', '%', '@', '\x60']

/-- Whether a plain scalar starts at the position. -/
def startsAt (inFlow : Bool) (c : Cursor) : Bool :=
  let ch := c.peek
  !(isGapOrEnd ch || indicators.contains ch) ||
    (!isGapOrEnd (c.peekAt 1) && (ch == '-' || (!inFlow && (ch == '?' || ch == ':'))))

/-- Whether a plain scalar ends before the first of two characters. -/
def endsBefore (inFlow : Bool) (ch next : Char) : Bool :=
  isGapOrEnd ch || (ch == ':' && (isGapOrEnd next || (inFlow && isFlowIndicator next))) ||
    (inFlow && (isFlowIndicator ch || ch == '?'))

/-- The length of the run of text in front. -/
def runLength (inFlow : Bool) : List Char → Nat
  | [] => 0
  | ch :: rest => if endsBefore inFlow ch (rest.headD endMark) then 0 else runLength inFlow rest + 1

/-- The empty lines at the position, each as its break, and whether a document separator follows. -/
def breaks : Nat → Cursor → List Char × Bool × Cursor
  | 0, c => ([], false, c)
  | fuel + 1, c =>
    let c := c.skipSpaces
    if isBreak c.peek then
      let (first, c) := c.lineBreak
      if c.atSeparator then (first, true, c)
      else
        let (others, separated, c) := breaks fuel c
        (first ++ others, separated, c)
    else ([], false, c)

/-- The gap after a run of text: its folded form, whether a line ends in it, and the position after it. There
is no form where the scalar cannot go on. -/
def gap (c : Cursor) : Option (List Char) × Bool × Cursor :=
  let (blanks, c) := c.span (· == ' ')
  if isBreak c.peek then
    let (first, c) := c.lineBreak
    if c.atSeparator then (none, true, c)
    else
      let (others, separated, c) := breaks c.budget c
      if separated then (none, true, c)
      else if first != ['\n'] then (some (first ++ others), true, c)
      else if others.isEmpty then (some [' '], true, c)
      else (some others, true, c)
  else if blanks.isEmpty then (none, false, c)
  else (some blanks, false, c)

/-- The text from the position on, after the given gap; whether its last gap ends a line; the position after
that gap. -/
def body (inFlow : Bool) (indent : Int) : Nat → Cursor → List Char → Bool → List Char × Bool × Cursor
  | 0, c, _, lineEnded => ([], lineEnded, c)
  | fuel + 1, c, before, lineEnded =>
    let length := if c.peek == '#' then 0 else runLength inFlow c.rest
    if length = 0 then ([], lineEnded, c)
    else
      let text := before ++ c.rest.take length
      let (space, lineEnded, c) := gap (c.advance length)
      match space with
      | none => (text, lineEnded, c)
      | some space =>
        if !inFlow && decide ((c.column : Int) < indent) then (text, lineEnded, c)
        else
          let (others, lineEnded, c) := body inFlow indent fuel c space lineEnded
          (text ++ others, lineEnded, c)

/-- The text of the plain scalar at the position below a parent at the given indentation, whether a line ends
in the gap behind it, and the position after that gap. -/
def scan (inFlow : Bool) (parent : Int) (c : Cursor) : List Char × Bool × Cursor :=
  body inFlow (parent + 1) c.budget c [] false

end Plain

end SearchRequest.Yaml
