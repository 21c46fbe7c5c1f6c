/-!
# Ranges of characters

A set of characters given by the inclusive ranges of their code points.
-/

namespace SearchRequest.Text

/-- Inclusive ranges of code points. -/
abbrev Ranges := List (Nat × Nat)

def Ranges.has (ranges : Ranges) (c : Char) : Bool :=
  ranges.any fun (first, last) => first ≤ c.toNat && c.toNat ≤ last

end SearchRequest.Text
