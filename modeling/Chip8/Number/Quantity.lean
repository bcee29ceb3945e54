import Chip8.Number.Decimal

/-!
# Quantities

A number given by a host, whole or floating-point, and what becomes of it when it meets another:
whole numbers are computed with exactly, and as soon as one is floating-point, all are.
-/

namespace Chip8

/-- A whole or a floating-point number. -/
inductive Quantity where
  | whole (n : Int)
  | real (d : Double)
deriving DecidableEq, Repr

namespace Quantity

/-- The text of a number. -/
def text : Quantity → String
  | whole n => toString n
  | real d => d.text

/-- Whether a number is at most zero. What is no number compares with none, so it is not. -/
def atMostZero : Quantity → Bool
  | whole n => n ≤ 0
  | real d => d.negative || d.isZero

/-- The number in the floating-point format. -/
def toDouble : Quantity → Except ArithmeticError Double
  | whole n => Double.ofInt n
  | real d => .ok d

/-- The product of two numbers, rounded to an integer, a half to the even neighbour. -/
def roundedTimes : Quantity → Quantity → Except ArithmeticError Int
  | whole n, whole m => .ok (n * m)
  | a, b => do
    let x ← a.toDouble
    let y ← b.toDouble
    (x.mul y).round

/-- An integer divided by a quantity. -/
def under (count : Int) (q : Quantity) : Except ArithmeticError Double :=
  match q with
  | whole n =>
    if n = 0 then .error .divisionByZero
    else .ok (.nearest ((count < 0) != (n < 0)) (count.natAbs / n.natAbs : Rat))
  | real d =>
    if d.isZero then .error .realDivisionByZero
    else do
      let c ← Double.ofInt count
      return c.div d

end Quantity

end Chip8
