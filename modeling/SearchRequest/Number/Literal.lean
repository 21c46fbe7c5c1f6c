import SearchRequest.Number.Binary64
import SearchRequest.Text.Blank
import SearchRequest.Text.Case
import SearchRequest.Text.Quoted

/-!
# Number literals

Reading whole numbers and decimals from text. White space around a literal is ignored, a sign may stand in
front, and the decimal digits of every script count.
-/

namespace SearchRequest

/-- Why a text is no number. -/
inductive LiteralError where
  | notInteger (base : Nat) (text : String)
  | notDecimal (text : String)
  deriving DecidableEq, Repr

namespace LiteralError

/-- How many characters of a quoted text a message about a whole number shows. -/
def shownLength : Nat := 200

def message : LiteralError → String
  | .notInteger base text =>
    "invalid literal for int() with base " ++ toString base ++ ": " ++
      String.ofList ((Text.quote text).toList.take shownLength)
  | .notDecimal text => "could not convert string to float: " ++ Text.quote text

end LiteralError

namespace Literal

/-- The code points of the zeros of all scripts with decimal digits; each is followed by its nine other
digits. -/
def zeros : List Nat :=
  [0x30, 0x660, 0x6F0, 0x7C0, 0x966, 0x9E6, 0xA66, 0xAE6, 0xB66, 0xBE6, 0xC66, 0xCE6, 0xD66, 0xDE6,
    0xE50, 0xED0, 0xF20, 0x1040, 0x1090, 0x17E0, 0x1810, 0x1946, 0x19D0, 0x1A80, 0x1A90, 0x1B50,
    0x1BB0, 0x1C40, 0x1C50, 0xA620, 0xA8D0, 0xA900, 0xA9D0, 0xA9F0, 0xAA50, 0xABF0, 0xFF10, 0x104A0,
    0x10D30, 0x11066, 0x110F0, 0x11136, 0x111D0, 0x112F0, 0x11450, 0x114D0, 0x11650, 0x116C0, 0x11730,
    0x118E0, 0x11950, 0x11C50, 0x11D50, 0x11DA0, 0x16A60, 0x16AC0, 0x16B50, 0x1D7CE, 0x1D7D8, 0x1D7E2,
    0x1D7EC, 0x1D7F6, 0x1E140, 0x1E2F0, 0x1E950, 0x1FBF0]

/-- The value of a decimal digit of any script. -/
def decimalDigit? (c : Char) : Option Nat :=
  (zeros.find? fun z => z ≤ c.toNat && c.toNat < z + 10).map (c.toNat - ·)

/-- The value of a digit or basic Latin letter, the letters counting from ten. -/
def digit? (c : Char) : Option Nat :=
  match decimalDigit? c with
  | some d => some d
  | none =>
    if 'a' ≤ c ∧ c ≤ 'z' then some (c.toNat - 'a'.toNat + 10)
    else if 'A' ≤ c ∧ c ≤ 'Z' then some (c.toNat - 'A'.toNat + 10)
    else none

/-- The natural number that digits of a base write, continuing from `acc`. -/
def digitsIn? (base : Nat) : List Char → Nat → Option Nat
  | [], acc => some acc
  | c :: cs, acc =>
    match digit? c with
    | some d => if d < base then digitsIn? base cs (acc * base + d) else none
    | none => none

/-- White space around a literal. The information separators are none here. -/
def isSpace (c : Char) : Bool := Text.isBlank c && !(0x1C ≤ c.toNat && c.toNat ≤ 0x1F)

/-- The literal without the white space around it. -/
def strip (cs : List Char) : List Char := Text.stripWhile isSpace cs

/-- A sign and what follows it. -/
def splitSign : List Char → Bool × List Char
  | '-' :: cs => (true, cs)
  | '+' :: cs => (false, cs)
  | cs => (false, cs)

/-- The mark that may stand in front of the digits of a base. -/
def baseMark (base : Nat) : List Char :=
  match base with
  | 2 => ['b', 'B']
  | 8 => ['o', 'O']
  | 16 => ['x', 'X']
  | _ => []

/-- The digits without the mark of their base, which follows a zero. -/
def dropMark (base : Nat) : List Char → List Char
  | zero :: mark :: cs =>
    if decimalDigit? zero = some 0 ∧ (baseMark base).contains mark then cs else zero :: mark :: cs
  | cs => cs

def integer? (base : Nat) (cs : List Char) : Option Int :=
  let (negative, unsigned) := splitSign (strip cs)
  match dropMark base unsigned with
  | [] => none
  | digits => (digitsIn? base digits 0).map fun (n : Nat) => if negative then -(n : Int) else n

/-- The whole number that a text writes in a base. -/
def integer (base : Nat) (cs : List Char) : Except LiteralError Int :=
  match integer? base cs with
  | some n => .ok n
  | none => .error (.notInteger base (String.ofList cs))

/-- The decimal digits in front, as a number and a count, and what follows them. -/
def takeDigits : List Char → Nat → Nat → Nat × Nat × List Char
  | [], n, count => (n, count, [])
  | c :: cs, n, count =>
    match decimalDigit? c with
    | some d => takeDigits cs (n * 10 + d) (count + 1)
    | none => (n, count, c :: cs)

/-- The exponent that a decimal ends with, zero if it ends at once. -/
def exponent? : List Char → Option Int
  | [] => some 0
  | c :: cs =>
    if c = 'e' ∨ c = 'E' then
      let (negative, digits) := splitSign cs
      match takeDigits digits 0 0 with
      | (n, count, []) => if count = 0 then none else some (if negative then -(n : Int) else n)
      | _ => none
    else none

/-- A decimal without its sign: whole digits, a point with further digits, an exponent. -/
def unsignedDecimal? (negative : Bool) (cs : List Char) : Option Binary64 :=
  let (whole, wholeCount, afterWhole) := takeDigits cs 0 0
  let (digits, fractionCount, afterFraction) :=
    match afterWhole with
    | '.' :: more => takeDigits more whole 0
    | more => (whole, 0, more)
  if wholeCount + fractionCount = 0 then none
  else (exponent? afterFraction).map fun e =>
    Binary64.ofDecimal negative digits (e - fractionCount)

def decimal? (cs : List Char) : Option Binary64 :=
  let (negative, unsigned) := splitSign (strip cs)
  match String.ofList (unsigned.flatMap Text.lowerChar) with
  | "inf" | "infinity" => some (.infinity negative)
  | "nan" => some (.nan none)
  | _ => unsignedDecimal? negative unsigned

/-- The floating-point number nearest to the decimal that a text writes. -/
def decimal (cs : List Char) : Except LiteralError Binary64 :=
  match decimal? cs with
  | some x => .ok x
  | none => .error (.notDecimal (String.ofList cs))

end Literal

end SearchRequest
