/-!
# Base 64

Reading bytes from text of sixty-four digits, four digits to three bytes. Characters that are no digits are
passed over, and padding ends the data once a last group can stand without the rest of it.
-/

namespace SearchRequest.Text.Base64

def digit? (c : Char) : Option Nat :=
  if 'A' ≤ c ∧ c ≤ 'Z' then some (c.toNat - 'A'.toNat)
  else if 'a' ≤ c ∧ c ≤ 'z' then some (c.toNat - 'a'.toNat + 26)
  else if '0' ≤ c ∧ c ≤ '9' then some (c.toNat - '0'.toNat + 52)
  else if c = '+' then some 62
  else if c = '/' then some 63
  else none

/-- The bits of a group that no byte has taken yet. -/
structure Group where
  /-- The number of digits in the group so far. -/
  count : Nat
  bits : Nat
  /-- The padding behind them. -/
  padding : Nat

/-- The bytes of the characters from a group that has begun. There are none if the last group is neither
whole nor padded. -/
def decodeFrom : List Char → Group → Option (List UInt8)
  | [], g => if g.count = 0 then some [] else none
  | c :: cs, g =>
    if c = '=' then
      if 2 ≤ g.count then
        if 4 ≤ g.count + g.padding + 1 then some []
        else decodeFrom cs { g with padding := g.padding + 1 }
      else decodeFrom cs g
    else match digit? c with
      | none => decodeFrom cs g
      | some d =>
        match g.count with
        | 0 => decodeFrom cs ⟨1, d, 0⟩
        | 1 => (decodeFrom cs ⟨2, d % 16, 0⟩).map (UInt8.ofNat (g.bits * 4 + d / 16) :: ·)
        | 2 => (decodeFrom cs ⟨3, d % 4, 0⟩).map (UInt8.ofNat (g.bits * 16 + d / 4) :: ·)
        | _ => (decodeFrom cs ⟨0, 0, 0⟩).map (UInt8.ofNat (g.bits * 64 + d) :: ·)

def decode (cs : List Char) : Option (List UInt8) := decodeFrom cs ⟨0, 0, 0⟩

end SearchRequest.Text.Base64
