/-!
# Floating-point numbers

A floating-point number of 64 bits as the exact value it stands for: a sign and a multiple of a power
of two. Every finite number is a whole number of units of `2 ^ -1074`, the distance between the smallest
ones, so comparing and rounding are done on natural numbers and nothing here is itself approximate.
-/

namespace SearchRequest

/-- A floating-point number of 64 bits. -/
inductive Binary64 where
  /-- Not a number. Only what is known to be one and the same, by its mark, is one key of a mapping; without
  a mark it equals nothing. -/
  | nan (mark : Option Nat)
  | infinity (negative : Bool)
  /-- The number `± significand · 2 ^ (exponent - 1074)`. -/
  | finite (negative : Bool) (significand exponent : Nat)
  deriving DecidableEq, Repr

namespace Binary64

-- Powers are written by name: `^` may stand for another function where more is imported.

/-- The number of units of `2 ^ -1074` in one. -/
def unitsPerOne : Nat := Nat.pow 2 1074

/-- The bound that every significand stays below. -/
def significandBound : Nat := Nat.pow 2 53

/-- The exponent of the largest finite numbers. -/
def maxExponent : Nat := 2045

/-- The zero of each sign. -/
def zero (negative : Bool) : Binary64 := .finite negative 0 0

def isFinite : Binary64 → Bool
  | .finite .. => true
  | _ => false

/-- The number of units of `2 ^ -1074` in a finite number, with its sign. -/
def units? : Binary64 → Option Int
  | .finite negative m e =>
    let magnitude : Int := (m * Nat.pow 2 e : Nat)
    some (if negative then -magnitude else magnitude)
  | _ => none

/-- The whole number nearest to `num / den`, a half going to the even neighbour. -/
def roundDiv (num den : Nat) : Nat :=
  let q := num / den
  let r := num % den
  if 2 * r < den then q
  else if den < 2 * r then q + 1
  else if q % 2 = 0 then q else q + 1

/-- The number of `num / den` units nearest to that ratio, a half going to the even significand. Past the
largest finite number it is infinity. -/
def ofUnits (negative : Bool) (num den : Nat) : Binary64 :=
  let e := Nat.log2 (num / den) - 52
  let m := roundDiv num (den * Nat.pow 2 e)
  let (m, e) := if m < significandBound then (m, e) else (m / 2, e + 1)
  if maxExponent < e then .infinity negative else .finite negative m e

/-- The number nearest to `num / den`. -/
def ofRatio (negative : Bool) (num den : Nat) : Binary64 :=
  ofUnits negative (num * unitsPerOne) den

/-- The number nearest to `± digits · 10 ^ exponent`. A magnitude far outside the finite range is not
computed. -/
def ofDecimal (negative : Bool) (digits : Nat) (exponent : Int) : Binary64 :=
  if digits = 0 then zero negative
  else
    let leading : Int := exponent + (Nat.toDigits 10 digits).length
    if 400 < leading then .infinity negative
    else if leading < -400 then zero negative
    else if exponent < 0 then ofRatio negative digits (Nat.pow 10 exponent.natAbs)
    else ofRatio negative (digits * Nat.pow 10 exponent.natAbs) 1

def ofInt (n : Int) : Binary64 := ofRatio (decide (n < 0)) n.natAbs 1

def neg : Binary64 → Binary64
  | .nan _ => .nan none
  | .infinity negative => .infinity (!negative)
  | .finite negative m e => .finite (!negative) m e

/-- The number nearest to the given count of units. An exact zero is positive. -/
def ofUnitsInt (n : Int) : Binary64 := ofUnits (decide (n < 0)) n.natAbs 1

/-- The sum, rounded once. -/
def add : Binary64 → Binary64 → Binary64
  | .nan _, _ => .nan none
  | _, .nan _ => .nan none
  | .infinity a, .infinity b => if a = b then .infinity a else .nan none
  | .infinity a, _ => .infinity a
  | _, .infinity b => .infinity b
  | .finite na ma ea, .finite nb mb eb =>
    if ma = 0 ∧ mb = 0 then zero (na && nb)
    else
      let a : Int := (ma * Nat.pow 2 ea : Nat)
      let b : Int := (mb * Nat.pow 2 eb : Nat)
      ofUnitsInt ((if na then -a else a) + (if nb then -b else b))

/-- The product with another number, rounded once. -/
def mul : Binary64 → Binary64 → Binary64
  | .nan _, _ => .nan none
  | _, .nan _ => .nan none
  | .infinity a, .infinity b => .infinity (a != b)
  | .infinity a, .finite b m _ => if m = 0 then .nan none else .infinity (a != b)
  | .finite a m _, .infinity b => if m = 0 then .nan none else .infinity (a != b)
  | .finite na ma ea, .finite nb mb eb =>
    ofUnits (na != nb) (ma * Nat.pow 2 ea * (mb * Nat.pow 2 eb)) unitsPerOne

/-- Whether a number has exactly the value of a whole number. -/
def eqInt (x : Binary64) (n : Int) : Bool :=
  x.units? == some (n * unitsPerOne)

/-- Whether two numbers are one key of a mapping: equal values, the two zeros included, or one and the same
that is no number. -/
def sameKey : Binary64 → Binary64 → Bool
  | .nan (some a), .nan (some b) => a == b
  | .infinity a, .infinity b => a == b
  | .finite na ma ea, .finite nb mb eb =>
    (Binary64.finite na ma ea).units? == (Binary64.finite nb mb eb).units?
  | _, _ => false

end Binary64

end SearchRequest
