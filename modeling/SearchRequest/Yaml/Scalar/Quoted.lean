import SearchRequest.Text.Surrogate
import SearchRequest.Yaml.Cursor
import SearchRequest.Yaml.Fault

/-!
# Quoted scalars

The text of a scalar between quotes. Line breaks inside are folded: a single one becomes a space, and of
several the first is dropped. Between single quotes only the quote itself is escaped, by writing it twice;
between double quotes a backslash starts an escape, which can also write what is no character.
-/

namespace SearchRequest.Yaml

/-- A piece of scalar text, and the position after it. -/
abbrev Piece := Except Fault (List Char × Cursor)

namespace Quoted

/-- The escapes of one character. -/
def replacement? (c : Char) : Option Char :=
  match c with
  | '0' => some (Char.ofNat 0)
  | 'a' => some (Char.ofNat 7)
  | 'b' => some (Char.ofNat 8)
  | 't' | '\t' => some '\t'
  | 'n' => some '\n'
  | 'v' => some (Char.ofNat 0xB)
  | 'f' => some (Char.ofNat 0xC)
  | 'r' => some '\r'
  | 'e' => some (Char.ofNat 0x1B)
  | ' ' => some ' '
  | '"' => some '"'
  | '\\' => some '\\'
  | '/' => some '/'
  | 'N' => some (Char.ofNat 0x85)
  | '_' => some (Char.ofNat 0xA0)
  | 'L' => some (Char.ofNat 0x2028)
  | 'P' => some (Char.ofNat 0x2029)
  | _ => none

/-- The count of hexadecimal digits that an escape takes. -/
def hexWidth? (c : Char) : Option Nat :=
  match c with
  | 'x' => some 2
  | 'u' => some 4
  | 'U' => some 8
  | _ => none

def hexValue? (c : Char) : Option Nat :=
  if '0' ≤ c ∧ c ≤ '9' then some (c.toNat - '0'.toNat)
  else if 'a' ≤ c ∧ c ≤ 'f' then some (c.toNat - 'a'.toNat + 10)
  else if 'A' ≤ c ∧ c ≤ 'F' then some (c.toNat - 'A'.toNat + 10)
  else none

/-- The number that hexadecimal digits write. -/
def hexNumber? (cs : List Char) : Option Nat :=
  cs.foldl (fun acc c => do return (← acc) * 16 + (← hexValue? c)) (some 0)

/-- The empty lines at the position, each as its break. -/
def breaks : Nat → Cursor → Piece
  | 0, c => .ok ([], c)
  | fuel + 1, c =>
    if c.atSeparator then .error (.malformed .separatorInQuote)
    else
      let c := c.skip isSpaceOrTab
      if isBreak c.peek then do
        let (first, c) := c.lineBreak
        let (others, c) ← breaks fuel c
        pure (first ++ others, c)
      else .ok ([], c)

/-- The gap at the position: folded if the line ends in it, else as it stands. -/
def gap (c : Cursor) : Piece :=
  let (blanks, c) := c.span isSpaceOrTab
  if c.peek == endMark then .error (.malformed .unclosedQuote)
  else if isBreak c.peek then do
    let (first, c) := c.lineBreak
    let (others, c) ← breaks c.budget c
    if first != ['\n'] then pure (first ++ others, c)
    else if others.isEmpty then pure ([' '], c)
    else pure (others, c)
  else .ok (blanks, c)

/-- The escape after a backslash. -/
def escape (c : Cursor) : Piece :=
  match replacement? c.peek with
  | some ch => .ok ([ch], c.next)
  | none =>
    match hexWidth? c.peek with
    | some width =>
      let c := c.next
      let digits := c.rest.take width
      match hexNumber? digits with
      | none => .error (.malformed .escape)
      | some n =>
        if digits.length < width then .error (.malformed .escape)
        else if 0x80000000 ≤ n then .error .wordRange
        else if 0x110000 ≤ n then .error .codePoint
        else .ok ((Text.CodePoint.ofNat n).spelling, c.advance width)
    | none =>
      if isBreak c.peek then
        let c := c.lineBreak.2
        breaks c.budget c
      else .error (.malformed .escape)

/-- A character that stands for itself in every quoted scalar. -/
def isOrdinary (c : Char) : Bool :=
  !(c == '\x27' || c == '"' || c == '\\' || isGapOrEnd c)

/-- The text up to the closing quote. -/
def body (double : Bool) : Nat → Cursor → Piece
  | 0, _ => .error (.malformed .unclosedQuote)
  | fuel + 1, c => do
    let (plain, c) := c.span isOrdinary
    let ch := c.peek
    let quote := if double then '"' else '\x27'
    if !double && ch == '\x27' && c.peekAt 1 == '\x27' then
      let (others, c) ← body double fuel (c.advance 2)
      pure (plain ++ '\x27' :: others, c)
    else if ch == quote then pure (plain, c.next)
    else if double && ch == '\\' then
      let (escaped, c) ← escape c.next
      let (others, c) ← body double fuel c
      pure (plain ++ escaped ++ others, c)
    else if isGapOrEnd ch then
      let (space, c) ← gap c
      let (others, c) ← body double fuel c
      pure (plain ++ space ++ others, c)
    else
      let (others, c) ← body double fuel c.next
      pure (plain ++ ch :: others, c)

/-- The text of the quoted scalar that starts at the position. -/
def scan (c : Cursor) : Piece :=
  let double := c.peek == '"'
  body double c.budget c.next

end Quoted

end SearchRequest.Yaml
