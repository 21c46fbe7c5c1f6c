import SearchRequest.Calendar
import SearchRequest.Yaml.Tag

/-!
# Timestamps

Dates and moments as scalars write them: year, month and day, and behind a `T` or blanks the time of day with
an optional fraction and zone. Only the first six digits of a fraction count.
-/

namespace SearchRequest.Yaml

/-- The zone of a moment as it is written: universal time, or a sign with hours and minutes. -/
inductive Zone where
  | universal
  | offset (negative : Bool) (hours minutes : Nat)
  deriving DecidableEq, Repr

/-- The numbers of a time of day. -/
structure ClockReading where
  hour : Nat
  minute : Nat
  second : Nat
  fraction : List Char
  zone : Option Zone
  deriving DecidableEq, Repr

/-- The numbers of a timestamp. -/
structure TimestampReading where
  year : Nat
  month : Nat
  day : Nat
  clock : Option ClockReading
  deriving DecidableEq, Repr

namespace Timestamp

def number (cs : List Char) : Nat := cs.foldl (fun n c => n * 10 + (c.toNat - '0'.toNat)) 0

/-- Exactly the given number of digits, and what follows. -/
def digits? (count : Nat) (cs : List Char) : Option (Nat × List Char) := do
  let rest ← Tag.afterCount? count cs
  pure (number (cs.take count), rest)

/-- One or two digits, and what follows. -/
def oneOrTwo? (cs : List Char) : Option (Nat × List Char) := do
  let rest ← Tag.afterOneOrTwo? cs
  pure (number (cs.take (cs.length - rest.length)), rest)

def isBlank (c : Char) : Bool := c == ' ' || c == '\t'

/-- The text after what parts a date from a time of day. -/
def afterGap? : List Char → Option (List Char)
  | 'T' :: cs | 't' :: cs => some cs
  | c :: cs => if isBlank c then some (cs.dropWhile isBlank) else none
  | [] => none

/-- The fraction of a second, empty where there is none, and what follows. -/
def fraction : List Char → List Char × List Char
  | '.' :: cs => (cs.takeWhile Char.isDigit, cs.dropWhile Char.isDigit)
  | cs => ([], cs)

/-- A zone with a sign, which ends the text. -/
def offset? (negative : Bool) (cs : List Char) : Option Zone := do
  let (hours, rest) ← oneOrTwo? cs
  match rest with
  | [] => pure (.offset negative hours 0)
  | ':' :: rest =>
    let (minutes, rest) ← digits? 2 rest
    if rest.isEmpty then pure (.offset negative hours minutes) else none
  | _ => none

/-- The zone that a text ends with. -/
def zone? (cs : List Char) : Option (Option Zone) :=
  match cs with
  | [] => some none
  | cs =>
    match cs.dropWhile isBlank with
    | ['Z'] => some (some .universal)
    | '+' :: rest => some <$> offset? false rest
    | '-' :: rest => some <$> offset? true rest
    | _ => none

def clock? (cs : List Char) : Option ClockReading := do
  let (hour, cs) ← oneOrTwo? cs
  let (minute, cs) ← digits? 2 (← Tag.afterChar? ':' cs)
  let (second, cs) ← digits? 2 (← Tag.afterChar? ':' cs)
  let (fraction, cs) := fraction cs
  let zone ← zone? cs
  pure ⟨hour, minute, second, fraction, zone⟩

/-- The numbers that a text writes. A line break at its end does not count. -/
def read? (cs : List Char) : Option TimestampReading := do
  let cs := if cs.getLast? = some '\n' then cs.dropLast else cs
  let (year, cs) ← digits? 4 cs
  let (month, cs) ← oneOrTwo? (← Tag.afterChar? '-' cs)
  let (day, cs) ← oneOrTwo? (← Tag.afterChar? '-' cs)
  if cs.isEmpty then pure ⟨year, month, day, none⟩
  else do
    let clock ← clock? (← afterGap? cs)
    pure ⟨year, month, day, some clock⟩

/-- Whether a plain scalar is a timestamp: a date alone has all its digits. -/
def isPlain (cs : List Char) : Bool :=
  Tag.isDate cs || (cs.getLast? != some '\n' && (read? cs).any (·.clock.isSome))

/-- The microseconds of a fraction. -/
def microseconds (fraction : List Char) : Nat :=
  number ((fraction ++ List.replicate 6 '0').take 6)

/-- The minutes of a zone. -/
def Zone.minutes : Zone → Int
  | .universal => 0
  | .offset negative hours minutes =>
    let total : Int := hours * 60 + minutes
    if negative then -total else total

/-- The offset of a zone, which must be less than a day. -/
def zoneOffset : Option Zone → Except CalendarError (Option Int)
  | none => .ok none
  | some zone =>
    let minutes := Zone.minutes zone
    if minutes.natAbs < 1440 then .ok (some minutes) else .error (.offset minutes)

end Timestamp

end SearchRequest.Yaml
