/-!
# Surrogates

An escape in a configuration can write a surrogate, a code point that is no character. A text in which one may stand
is spelled out: a noncharacter announces that the character behind it means a surrogate, and twice in a row it
means itself. Every other character means itself, so a text without the noncharacter is its own spelling. The text
of a configuration never holds the noncharacter as it stands.

Neither a file nor an output takes a surrogate. In messages it is shown as the escape that writes it.
-/

namespace SearchRequest.Text

/-- A number in lower-case hexadecimal, filled up with zeros to a width. -/
def hexChars (width n : Nat) : List Char :=
  let ds := Nat.toDigits 16 n
  List.replicate (width - ds.length) '0' ++ ds

/-- A character, or one of the surrogates by its number among them. -/
inductive CodePoint where
  | character (c : Char)
  | surrogate (n : Fin 0x800)
  deriving DecidableEq, Repr

/-- The noncharacter that announces a surrogate. -/
def announcer : Char := Char.ofNat 0xFFFF

namespace CodePoint

def firstSurrogate : Nat := 0xD800

/-- The character behind the announcer that means the first surrogate. -/
def firstLetter : Nat := 0xE000

def ofNat (n : Nat) : CodePoint :=
  if h : firstSurrogate ≤ n ∧ n < firstSurrogate + 0x800 then .surrogate ⟨n - firstSurrogate, by omega⟩
  else .character (Char.ofNat n)

/-- How a code point is spelled. -/
def spelling : CodePoint → List Char
  | .character c => if c = announcer then [announcer, announcer] else [c]
  | .surrogate n => [announcer, Char.ofNat (firstLetter + n)]

/-- What the character behind an announcer means together with it. -/
def announced? (c : Char) : Option CodePoint :=
  if c = announcer then some (.character announcer)
  else if h : firstLetter ≤ c.toNat ∧ c.toNat < firstLetter + 0x800 then
    some (.surrogate ⟨c.toNat - firstLetter, by omega⟩)
  else none

def isSurrogate : CodePoint → Bool
  | .character _ => false
  | .surrogate _ => true

/-- The escape of a surrogate. -/
def escape (n : Fin 0x800) : List Char := '\\' :: 'u' :: hexChars 4 (firstSurrogate + n)

/-- A code point as messages show it. -/
def shown : CodePoint → List Char
  | .character c => [c]
  | .surrogate n => escape n

/-- Whether a path may hold the code point: all characters, and the surrogates that stand for bytes which are no text. -/
def isForPaths : CodePoint → Bool
  | .character _ => true
  | .surrogate n => 0x480 ≤ n.val && n.val < 0x500

end CodePoint

/-- The code points that characters spell. An announcer before anything else than what it announces means itself. -/
def codePoints : List Char → List CodePoint
  | [] => []
  | [c] => [.character c]
  | c :: d :: rest =>
    if c = announcer then
      match CodePoint.announced? d with
      | some p => p :: codePoints rest
      | none => .character c :: codePoints (d :: rest)
    else .character c :: codePoints (d :: rest)

/-- The surrogates in a row that keep a text from being encoded. -/
structure SurrogateError where
  first : Fin 0x800
  position : Nat
  count : Nat
  deriving DecidableEq, Repr

namespace SurrogateError

def message (e : SurrogateError) : String :=
  "'utf-8' codec can't encode " ++
    (if e.count = 1 then
      "character '" ++ String.ofList (CodePoint.escape e.first) ++ "' in position " ++ toString e.position
    else "characters in position " ++ toString e.position ++ "-" ++ toString (e.position + e.count - 1)) ++
    ": surrogates not allowed"

end SurrogateError

/-- The first surrogate that is not allowed, with those that follow it, among code points from a position on. -/
def surrogateError? (isAllowed : CodePoint → Bool) : Nat → List CodePoint → Option SurrogateError
  | _, [] => none
  | position, .character _ :: rest => surrogateError? isAllowed (position + 1) rest
  | position, .surrogate n :: rest =>
    if isAllowed (.surrogate n) then surrogateError? isAllowed (position + 1) rest
    else some ⟨n, position, (rest.takeWhile CodePoint.isSurrogate).length + 1⟩

/-- The spelling of a text. -/
def spell (s : String) : String := String.ofList ((s.toList.map .character).flatMap CodePoint.spelling)

/-- A text as messages show it. -/
def shown (s : String) : String := String.ofList ((codePoints s.toList).flatMap CodePoint.shown)

/-- The text that a spelling spells, if it has no surrogates. -/
def plain (s : String) : Except SurrogateError String :=
  match surrogateError? (!·.isSurrogate) 0 (codePoints s.toList) with
  | some e => .error e
  | none => .ok (shown s)

/-- The surrogates that keep a text from being a path. -/
def pathError? (s : String) : Option SurrogateError :=
  surrogateError? CodePoint.isForPaths 0 (codePoints s.toList)

end SearchRequest.Text
