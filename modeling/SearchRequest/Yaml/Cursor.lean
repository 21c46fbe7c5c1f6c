/-!
# Positions in a text

A position in a text: what is left of it, and how many characters, lines and columns lie before. The end of
the text reads as the null character, which no document may hold.
-/

namespace SearchRequest.Yaml

/-- The character that stands for the end of the text. -/
def endMark : Char := '\x00'

def byteOrderMark : Char := Char.ofNat 0xFEFF

/-- Whether a document may hold a character. -/
def isAllowed (c : Char) : Bool :=
  let n := c.toNat
  n == 0x9 || n == 0xA || n == 0xD || (0x20 ≤ n && n ≤ 0x7E) || n == 0x85 || (0xA0 ≤ n && n ≤ 0xFFFD) ||
    0x10000 ≤ n

/-- A line break. -/
def isBreak (c : Char) : Bool :=
  c == '\n' || c == '\r' || c.toNat == 0x85 || c.toNat == 0x2028 || c.toNat == 0x2029

def isBreakOrEnd (c : Char) : Bool := c == endMark || isBreak c

def isSpaceOrTab (c : Char) : Bool := c == ' ' || c == '\t'

/-- A space or the end of a line. -/
def isSpaceOrEnd (c : Char) : Bool := c == ' ' || isBreakOrEnd c

/-- A space, a tab or the end of a line. -/
def isGapOrEnd (c : Char) : Bool := c == '\t' || isSpaceOrEnd c

/-- A basic Latin letter or digit, a hyphen or an underscore. -/
def isWord (c : Char) : Bool := c.isAlphanum || c == '-' || c == '_'

structure Cursor where
  rest : List Char
  /-- The length of the whole text. -/
  size : Nat
  index : Nat
  line : Nat
  column : Nat

namespace Cursor

def ofText (text : List Char) : Cursor := ⟨text, text.length, 0, 0, 0⟩

/-- The character at the position. -/
def peek (c : Cursor) : Char := c.rest.headD endMark

/-- The character some places further on. -/
def peekAt (c : Cursor) (n : Nat) : Char := (c.rest.drop n).headD endMark

/-- The position after one character. A return and a newline are one break. -/
def next (c : Cursor) : Cursor :=
  match c.rest with
  | [] => c
  | ch :: rest =>
    let c := { c with rest := rest, index := c.index + 1 }
    if isBreak ch && !(ch == '\r' && rest.head? == some '\n') then { c with line := c.line + 1, column := 0 }
    else if ch == byteOrderMark then c
    else { c with column := c.column + 1 }

/-- The position after a number of characters. -/
def advance (c : Cursor) : Nat → Cursor
  | 0 => c
  | n + 1 => c.next.advance n

/-- The characters in front that have a property, and the position after them. -/
def span (c : Cursor) (p : Char → Bool) : List Char × Cursor :=
  let taken := c.rest.takeWhile p
  (taken, c.advance taken.length)

def skip (c : Cursor) (p : Char → Bool) : Cursor := (c.span p).2

def skipSpaces (c : Cursor) : Cursor := c.skip (· == ' ')

/-- The position after a comment, if one starts here. -/
def skipComment (c : Cursor) : Cursor := if c.peek == '#' then c.skip (!isBreak ·) else c

/-- The line break at the position, as the text that stands for it, and the position after it. There is none
where no line ends. -/
def lineBreak (c : Cursor) : List Char × Cursor :=
  let ch := c.peek
  if ch == '\r' && c.peekAt 1 == '\n' then (['\n'], c.advance 2)
  else if ch == '\r' || ch == '\n' || ch.toNat == 0x85 then (['\n'], c.next)
  else if isBreak ch then ([ch], c.next)
  else ([], c)

/-- Whether three equal characters and then a gap stand at the position. -/
def atMarker (c : Cursor) (ch : Char) : Bool :=
  c.peek == ch && c.peekAt 1 == ch && c.peekAt 2 == ch && isGapOrEnd (c.peekAt 3)

/-- Whether a document separator stands at the position. -/
def atSeparator (c : Cursor) : Bool := c.atMarker '-' || c.atMarker '.'

/-- A bound on the steps that a scan from here can take, each of which passes a character. -/
def budget (c : Cursor) : Nat := c.size - c.index + 1

end Cursor

end SearchRequest.Yaml
