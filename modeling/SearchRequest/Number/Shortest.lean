import SearchRequest.Number.Binary64

/-!
# Shortest decimal text

The text of a floating-point number is the decimal with the fewest digits that reads back as that number,
and of several with equally few the nearest one. For each count of digits only the two neighbours of the
value on that decimal grid can be the answer, and each is tested in exact arithmetic.
-/

namespace SearchRequest

/-- The decimal `digits · 10 ^ exponent`. -/
structure Decimal where
  digits : Nat
  exponent : Int
  deriving DecidableEq, Repr

namespace Decimal

/-- The same value without zeros at the end of its digits. -/
def trim (fuel : Nat) (d : Decimal) : Decimal :=
  match fuel with
  | 0 => d
  | fuel + 1 =>
    if d.digits ≠ 0 ∧ d.digits % 10 = 0 then trim fuel ⟨d.digits / 10, d.exponent + 1⟩ else d

end Decimal

namespace Binary64

/-- The reals that round to a finite number, as bounds on a count of quarter units. -/
structure Interval where
  low : Nat
  value : Nat
  high : Nat
  /-- Whether the bounds themselves round to the number. -/
  closed : Bool

/-- The interval of `m · 2 ^ e`. Below a power of two the numbers lie twice as close. -/
def interval (m e : Nat) : Interval :=
  let below := if m = Nat.pow 2 52 ∧ 0 < e then 1 else 2
  { low := (4 * m - below) * Nat.pow 2 e
    value := 4 * m * Nat.pow 2 e
    high := (4 * m + 2) * Nat.pow 2 e
    closed := m % 2 = 0 }

/-- Whether `c · num / den`, in quarter units, lies in the interval. -/
def Interval.covers (i : Interval) (c num den : Nat) : Bool :=
  if i.closed then i.low * den ≤ c * num && c * num ≤ i.high * den
  else i.low * den < c * num && c * num < i.high * den

/-- The number of quarter units in one. -/
def quarterUnitsPerOne : Nat := 4 * unitsPerOne

/-- The size of `10 ^ g` in quarter units, as a ratio. -/
def gridStep (g : Int) : Nat × Nat :=
  if g < 0 then (quarterUnitsPerOne, Nat.pow 10 g.natAbs) else (quarterUnitsPerOne * Nat.pow 10 g.natAbs, 1)

/-- The nearest multiple of `10 ^ g` that lies in the interval, a tie going to the even one. -/
def onGrid? (i : Interval) (g : Int) : Option Nat :=
  let (num, den) := gridStep g
  let floor := i.value * den / num
  let rest := i.value * den % num
  let floorFits := i.covers floor num den && floor != 0
  let ceilingFits := rest != 0 && i.covers (floor + 1) num den
  if floorFits && ceilingFits then some (roundDiv (i.value * den) num)
  else if floorFits then some floor
  else if ceilingFits then some (floor + 1)
  else none

/-- The exponent of the leading decimal digit of a positive number of quarter units: the estimate from the
binary exponent, put right by at most one. -/
def leadingExponent (i : Interval) : Int :=
  let estimate : Int := (((Nat.log2 i.value : Int) - 1076) * 1233) / 4096
  let atLeast (k : Int) : Bool :=
    let (num, den) := gridStep k
    num ≤ i.value * den
  if atLeast (estimate + 1) then estimate + 1
  else if atLeast estimate then estimate
  else estimate - 1

/-- The first count of digits, from `count` on, whose grid has a point in the interval. -/
def firstGrid (i : Interval) (leading : Int) (count : Nat) : Nat → Decimal
  | 0 => ⟨0, 0⟩
  | more + 1 =>
    let g := leading + 1 - count
    match onGrid? i g with
    | some c => ⟨c, g⟩
    | none => firstGrid i leading (count + 1) more

/-- The decimal with the fewest digits that reads back as `m · 2 ^ (e - 1074)`; seventeen digits always
suffice. -/
def shortest (m e : Nat) : Decimal :=
  if m = 0 then ⟨0, 0⟩
  else
    let i := interval m e
    (firstGrid i (leadingExponent i) 1 17).trim 20

end Binary64

/-- How a decimal is laid out as text. -/
structure NumberLayout where
  /-- The exponents of the leading digit that are written with a point and no exponent mark. -/
  leastPositional : Int
  firstScientific : Int
  /-- The digits that a written exponent has at least. -/
  exponentDigits : Nat

namespace NumberLayout

/-- The digits of a natural number. -/
def digitChars (n : Nat) : List Char := Nat.toDigits 10 n

def padLeft (width : Nat) (cs : List Char) : List Char :=
  List.replicate (width - cs.length) '0' ++ cs

/-- A positive decimal without an exponent mark, with at least one digit on each side of the point. -/
def positional (ds : List Char) (leading : Int) : List Char :=
  if leading < 0 then
    '0' :: '.' :: List.replicate (leading.natAbs - 1) '0' ++ ds
  else
    let whole := leading.natAbs + 1
    if ds.length ≤ whole then
      ds ++ List.replicate (whole - ds.length) '0' ++ ['.', '0']
    else ds.take whole ++ '.' :: ds.drop whole

/-- A positive decimal with one digit before the point and an exponent mark. -/
def scientific (layout : NumberLayout) (ds : List Char) (leading : Int) : List Char :=
  let mantissa := match ds with
    | [] => []
    | [d] => [d]
    | d :: rest => d :: '.' :: rest
  mantissa ++ 'e' :: (if leading < 0 then '-' else '+') ::
    padLeft layout.exponentDigits (digitChars leading.natAbs)

def write (layout : NumberLayout) (d : Decimal) : List Char :=
  if d.digits = 0 then ['0', '.', '0']
  else
    let ds := digitChars d.digits
    let leading := d.exponent + ds.length - 1
    if layout.leastPositional ≤ leading ∧ leading < layout.firstScientific then positional ds leading
    else layout.scientific ds leading

end NumberLayout

namespace Binary64

/-- Numbers are written with a point from `0.0001` up to sixteen whole digits, and past that with an
exponent of at least two digits. -/
def layout : NumberLayout where
  leastPositional := -4
  firstScientific := 16
  exponentDigits := 2

/-- The text of a number. -/
def written : Binary64 → List Char
  | .nan _ => ['n', 'a', 'n']
  | .infinity negative => (if negative then ['-'] else []) ++ ['i', 'n', 'f']
  | .finite negative m e => (if negative then ['-'] else []) ++ layout.write (shortest m e)

end Binary64

end SearchRequest
