import SearchRequest.Number.Literal
import SearchRequest.Text.Base64
import SearchRequest.Value.Basic
import SearchRequest.Yaml.Fault
import SearchRequest.Yaml.Timestamp

/-!
# Values of scalars

What the text of a scalar stands for under each tag. Underscores in numbers do not count, and numbers with
colons are in base sixty.
-/

namespace SearchRequest.Yaml

namespace ScalarValue

def ofLiteral {α : Type} : Except LiteralError α → Except Fault α
  | .ok a => .ok a
  | .error e => .error (.literal e)

def ofCalendar {α : Type} : Except CalendarError α → Except Fault α
  | .ok a => .ok a
  | .error e => .error (.calendar e)

/-- A sign and the text behind it; the text of a number must not be empty. -/
def signed (text : List Char) : Except Fault (Bool × List Char) :=
  if text.isEmpty then .error .emptyNumber else .ok (Literal.splitSign text)

def bool (text : List Char) : Except Fault Value :=
  let word := Text.lower (String.ofList text)
  if ["yes", "true", "on"].contains word then .ok (.bool true)
  else if ["no", "false", "off"].contains word then .ok (.bool false)
  else .error (.truth word)

/-- The whole number of digits in base sixty, continuing from `acc`. -/
def sixties (acc : Int) : List (List Char) → Except Fault Int
  | [] => .ok acc
  | part :: parts => do
    let digit ← ofLiteral (Literal.integer 10 part)
    sixties (acc * 60 + digit) parts

/-- A whole number without its sign. -/
def magnitude (text : List Char) : Except Fault Int :=
  match text with
  | [] => .error .emptyNumber
  | ['0'] => .ok 0
  | '0' :: 'b' :: digits => ofLiteral (Literal.integer 2 digits)
  | '0' :: 'x' :: digits => ofLiteral (Literal.integer 16 digits)
  | '0' :: _ => ofLiteral (Literal.integer 8 text)
  | _ =>
    if text.contains ':' then sixties 0 (text.splitOn ':')
    else ofLiteral (Literal.integer 10 text)

def int (text : List Char) : Except Fault Value := do
  let (negative, digits) ← signed (text.filter (· != '_'))
  let n ← magnitude digits
  pure (.int (if negative then -n else n))

/-- The decimals of the parts of a number in base sixty. -/
def decimals : List (List Char) → Except Fault (List Binary64)
  | [] => .ok []
  | part :: parts => do
    let x ← ofLiteral (Literal.decimal part)
    let xs ← decimals parts
    pure (x :: xs)

/-- The sum of parts in base sixty, the last one first; each step is rounded. There is none once a weight is
beyond the finite numbers. -/
def sixtySum (total : Binary64) (weight : Int) : List Binary64 → Except Fault Binary64
  | [] => .ok total
  | x :: xs =>
    let factor := Binary64.ofInt weight
    if factor.isFinite then sixtySum (total.add (x.mul factor)) (weight * 60) xs else .error .weight

def unsignedFloat (text : List Char) : Except Fault Binary64 :=
  if text.contains ':' then do
    let parts ← decimals (text.splitOn ':')
    sixtySum (.zero false) 1 parts.reverse
  else ofLiteral (Literal.decimal text)

/-- The mark of the one constant that is no number. -/
def notANumberMark : Nat := 0

def float (text : List Char) : Except Fault Value := do
  let (negative, unsigned) ← signed (Text.lowerChars (text.filter (· != '_')))
  if unsigned = ['.', 'i', 'n', 'f'] then pure (.float (.infinity negative))
  else if unsigned = ['.', 'n', 'a', 'n'] then pure (.float (.nan (some notANumberMark)))
  else
    let x ← unsignedFloat unsigned
    pure (.float (if negative then x.neg else x))

/-- The bytes that a text of base 64 writes. -/
def binary (text : List Char) : Except Fault Value :=
  if text.all (·.toNat < 0x80) then
    match Text.Base64.decode text with
    | some bytes => .ok (.bytes bytes)
    | none => .error (.malformed .binary)
  else .error (.malformed .binary)

def timestamp (text : List Char) : Except Fault Value :=
  match Timestamp.read? text with
  | none => .error .timestamp
  | some reading =>
    match reading.clock with
    | none => do
      pure (.date (← ofCalendar (Date.of reading.year reading.month reading.day)))
    | some clock => do
      let offset ← ofCalendar (Timestamp.zoneOffset clock.zone)
      let date ← ofCalendar (Date.of reading.year reading.month reading.day)
      pure (.moment (← ofCalendar (Moment.of date clock.hour clock.minute clock.second
        (Timestamp.microseconds clock.fraction) offset)))

end ScalarValue

end SearchRequest.Yaml
