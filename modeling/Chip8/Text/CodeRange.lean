/-!
# Ranges of code points

A class of characters given as closed ranges of code points.
-/

namespace Chip8

/-- The code points from `first` to `last`. -/
structure CodeRange where
  first : Nat
  last : Nat
deriving DecidableEq, Repr

namespace CodeRange

/-- Whether a character lies in the range. -/
def holds (r : CodeRange) (c : Char) : Bool := r.first ≤ c.toNat && c.toNat ≤ r.last

/-- Whether a character lies in one of the ranges. -/
def anyHolds (ranges : List CodeRange) (c : Char) : Bool := ranges.any (·.holds c)

end CodeRange

end Chip8
