/-!
# UTF-8

Reading bytes as UTF-8. A fault is the shortest stretch of bytes that starts no character: a byte that starts
none at all, the part of a character that a wrong byte follows, or one that the end of the bytes cuts off.
-/

namespace SearchRequest.Text

/-- Why bytes are no UTF-8 text. -/
inductive Utf8Error where
  | badStart (byte : UInt8) (position : Nat)
  /-- A stretch of `length` bytes that a wrong byte follows. -/
  | badContinuation (byte : UInt8) (position length : Nat)
  /-- A stretch that the end of the bytes cuts off. -/
  | cutOff (byte : UInt8) (position length : Nat)
  deriving DecidableEq, Repr

namespace Utf8Error

def hexByte (b : UInt8) : String :=
  let ds := Nat.toDigits 16 b.toNat
  String.ofList ('0' :: 'x' :: (List.replicate (2 - ds.length) '0' ++ ds))

/-- A stretch of bytes: a single one with its value, several by their positions. -/
def stretch (byte : UInt8) (position length : Nat) : String :=
  "'utf-8' codec can't decode " ++
    (if length = 1 then "byte " ++ hexByte byte ++ " in position " ++ toString position
      else "bytes in position " ++ toString position ++ "-" ++ toString (position + length - 1)) ++ ": "

def message : Utf8Error → String
  | .badStart byte position => stretch byte position 1 ++ "invalid start byte"
  | .badContinuation byte position length =>
    stretch byte position length ++ "invalid continuation byte"
  | .cutOff byte position length => stretch byte position length ++ "unexpected end of data"

end Utf8Error

namespace Utf8

def isContinuation (b : UInt8) : Bool := 0x80 ≤ b.toNat && b.toNat < 0xC0

/-- The number of bytes of the character that a byte starts. -/
def width? (b : UInt8) : Option Nat :=
  let n := b.toNat
  if n < 0x80 then some 1
  else if 0xC2 ≤ n ∧ n < 0xE0 then some 2
  else if 0xE0 ≤ n ∧ n < 0xF0 then some 3
  else if 0xF0 ≤ n ∧ n < 0xF5 then some 4
  else none

/-- Whether a byte may follow the first one: no character is written with more bytes than it needs, lies
among the surrogates, or lies beyond the last code point. -/
def mayFollow (first second : UInt8) : Bool :=
  let n := second.toNat
  isContinuation second &&
    (match first.toNat with
      | 0xE0 => 0xA0 ≤ n
      | 0xED => n < 0xA0
      | 0xF0 => 0x90 ≤ n
      | 0xF4 => n < 0x90
      | _ => true)

/-- The value bits of the first byte of a character. -/
def startBits (width : Nat) (b : UInt8) : Nat :=
  match width with
  | 1 => b.toNat
  | 2 => b.toNat % 0x20
  | 3 => b.toNat % 0x10
  | _ => b.toNat % 0x08

/-- The bytes in front that may continue a character, at most `count`. -/
def continuations (first : UInt8) (count : Nat) (bytes : List UInt8) : List UInt8 :=
  match bytes with
  | [] => []
  | second :: rest =>
    if count = 0 then []
    else if mayFollow first second then second :: (rest.take (count - 1)).takeWhile isContinuation
    else []

/-- The character in front of the bytes with its width, at a position of the whole. -/
def character (first : UInt8) (rest : List UInt8) (position : Nat) : Except Utf8Error (Char × Nat) :=
  match width? first with
  | none => .error (.badStart first position)
  | some width =>
    let found := continuations first (width - 1) rest
    if found.length + 1 = width then
      .ok (Char.ofNat (found.foldl (fun n b => n * 0x40 + b.toNat % 0x40) (startBits width first)), width)
    else if found.length = rest.length then .error (.cutOff first position (found.length + 1))
    else .error (.badContinuation first position (found.length + 1))

/-- The characters of bytes, the first `skip` of which belong to the character before. -/
def decodeFrom : List UInt8 → Nat → Nat → Except Utf8Error (List Char)
  | [], _, _ => .ok []
  | _ :: rest, position, skip + 1 => decodeFrom rest (position + 1) skip
  | b :: rest, position, 0 => do
    let (c, width) ← character b rest position
    let others ← decodeFrom rest (position + 1) (width - 1)
    pure (c :: others)

def decode (bytes : List UInt8) : Except Utf8Error (List Char) := decodeFrom bytes 0 0

/-- The bytes of a text. -/
def encode (s : String) : List UInt8 := s.toUTF8.toList

end Utf8

end SearchRequest.Text
