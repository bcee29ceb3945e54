/-!
# Rounding

A rational number rounded to an integer: to the nearest one, a half to the even neighbour, or toward
zero.
-/

namespace Chip8

/-- The nearest integer; exactly between two integers, the even one. -/
def roundHalfEven (q : Rat) : Int :=
  let below := q.floor
  let rest := q - below
  if rest < 1 / 2 then below
  else if 1 / 2 < rest then below + 1
  else if below % 2 = 0 then below
  else below + 1

/-- The integer part, without the digits after the point. -/
def truncate (q : Rat) : Int := if q < 0 then q.ceil else q.floor

end Chip8
