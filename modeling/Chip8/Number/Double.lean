import Chip8.Number.Rounding

/-!
# Binary floating point

The numbers of the 64-bit binary format, computed exactly: a finite number is a signed mantissa
below `2 ^ 53` times a power of two from `-1074` to `971`, zero keeps its sign, and there are two
infinities. Every operation takes the exact rational result and rounds it once, to the nearest
number of the format and from halfway to the one with the even mantissa; a result beyond the largest
finite number is infinite. Where there is no result, as for zero times infinity, it is the datum
that is no number, and so is every result of it.
-/

namespace Chip8

/-- A number of the 64-bit binary format. The mantissa of a finite number is at least `2 ^ 52`
unless the exponent is the least one, so each number is written in one way. -/
inductive Double where
  | finite (negative : Bool) (mantissa : Nat) (exponent : Int)
  | infinite (negative : Bool)
  /-- The result of an operation that has none. -/
  | nan
deriving DecidableEq, Repr, Inhabited

/-- What can go wrong when numbers of different kinds meet. -/
inductive ArithmeticError where
  /-- An infinite number has no integer part. -/
  | infiniteToInteger
  /-- What is no number has no integer part. -/
  | nanToInteger
  /-- The integer is larger than every finite number of the format. -/
  | integerTooLarge
  /-- An integer was divided by the integer zero. -/
  | divisionByZero
  /-- A number was divided by a floating-point zero. -/
  | realDivisionByZero
deriving DecidableEq, Repr

/-- The text of an arithmetic error. -/
def ArithmeticError.message : ArithmeticError → String
  | infiniteToInteger => "cannot convert float infinity to integer"
  | nanToInteger => "cannot convert float NaN to integer"
  | integerTooLarge => "int too large to convert to float"
  | divisionByZero => "division by zero"
  | realDivisionByZero => "float division by zero"

namespace Double

/-- The power of two of the last place of a full mantissa. -/
def leastExponent : Int := -1074

/-- The largest power of two of a finite number. -/
def greatestExponent : Int := 971

/-- The number of binary places of a mantissa. -/
def precision : Nat := 53

/-- Every mantissa is below this number, the least one with more than `precision` places. -/
def mantissaLimit : Nat := 0x20000000000000

/-- Zero with a sign. -/
def zero (negative : Bool) : Double := finite negative 0 leastExponent

/-- The power of two at which a positive rational has a mantissa of `precision` places, or the least
exponent if that is larger. -/
def exponentFor (q : Rat) : Int :=
  let estimate : Int := q.num.natAbs.log2 - q.den.log2
  let magnitude := if q < (2 : Rat) ^ estimate then estimate - 1 else estimate
  max (magnitude - (precision - 1)) leastExponent

/-- The number nearest to a non-negative rational, with a sign. -/
def nearest (negative : Bool) (q : Rat) : Double :=
  let exponent := exponentFor q
  let mantissa := (roundHalfEven (q / (2 : Rat) ^ exponent)).toNat
  let (mantissa, exponent) :=
    if mantissa = mantissaLimit then (mantissaLimit / 2, exponent + 1) else (mantissa, exponent)
  if q = 0 then zero negative
  else if greatestExponent < exponent then infinite negative
  else finite negative mantissa exponent

/-- Whether a number has a minus sign; zero may have one, and what is no number shows none. -/
def negative : Double → Bool
  | finite negative _ _ => negative
  | infinite negative => negative
  | nan => false

/-- The distance of a finite number from zero. -/
def magnitude : Double → Rat
  | finite _ mantissa exponent => mantissa * (2 : Rat) ^ exponent
  | _ => 0

/-- The value of a finite number. -/
def toRat (d : Double) : Rat := if d.negative then -d.magnitude else d.magnitude

/-- Whether a number is a zero of either sign. -/
def isZero : Double → Bool
  | finite _ mantissa _ => mantissa == 0
  | _ => false

/-- The number nearest to an integer. -/
def ofInt (n : Int) : Except ArithmeticError Double :=
  match nearest (n < 0) n.natAbs with
  | infinite _ => .error .integerTooLarge
  | d => .ok d

/-- The number nearest to `digits * 10 ^ exponent`. Exponents far outside the format are answered
without computing the power. -/
def ofDecimal (negative : Bool) (digits : Nat) (exponent : Int) : Double :=
  let places : Int := digits.log2 / 3 + 1
  if digits = 0 ∨ exponent + places < -330 then zero negative
  else if 310 < exponent then infinite negative
  else nearest negative (digits * (10 : Rat) ^ exponent)

/-- The product. Zero and an infinity have none. -/
def mul : Double → Double → Double
  | nan, _ | _, nan => nan
  | a@(finite ..), b@(finite ..) => nearest (a.negative != b.negative) (a.magnitude * b.magnitude)
  | a, b => if a.isZero || b.isZero then nan else infinite (a.negative != b.negative)

/-- The quotient, for a divisor that is not zero. Two infinities have none. -/
def div : Double → Double → Double
  | nan, _ | _, nan | infinite _, infinite _ => nan
  | a@(finite ..), b@(finite ..) => nearest (a.negative != b.negative) (a.magnitude / b.magnitude)
  | a@(finite ..), b => zero (a.negative != b.negative)
  | a, b => infinite (a.negative != b.negative)

/-- A tenth of a positive finite number without its fraction. The multiple of ten below the number
is rounded, and so is its tenth; where that rounding leaves a fraction after all, the nearer integer
is taken. -/
def wholeTenth (d : Double) : Double :=
  let tens := nearest false (10 * ((d.toRat / 10).floor : Rat))
  let tenth := (tens.div (nearest false 10)).toRat
  nearest false (if 1 / 2 < tenth - tenth.floor then tenth.floor + 1 else tenth.floor : Int)

/-- The nearest integer, a half to the even neighbour. -/
def round : Double → Except ArithmeticError Int
  | infinite _ => .error .infiniteToInteger
  | nan => .error .nanToInteger
  | d => .ok (roundHalfEven d.toRat)

/-- The integer part. -/
def toInt : Double → Except ArithmeticError Int
  | infinite _ => .error .infiniteToInteger
  | nan => .error .nanToInteger
  | d => .ok (truncate d.toRat)

end Double

end Chip8
