import Chip8.Number.Double

/-!
# Decimal text of floating-point numbers

A number is written with the fewest decimal digits that read back to it; of two such decimals the
nearer is taken, and exactly between two the even one. Decimal exponents from `-4` to `15` are
written positionally, with at least one digit after the point; others with one digit before the
point and an exponent that has a sign and at least two digits. Separately, a number can be written
with one place after the point.
-/

namespace Chip8

/-- A decimal number, `digits * 10 ^ exponent`. -/
structure Decimal where
  digits : Nat
  exponent : Int
deriving DecidableEq, Repr

namespace Decimal

/-- The value of a decimal. -/
def toRat (d : Decimal) : Rat := d.digits * (10 : Rat) ^ d.exponent

/-- The least power of ten above a positive finite number. -/
def scale (x : Double) : Int :=
  let q := x.magnitude
  let estimate := (((q.num.natAbs.log2 : Int) - q.den.log2) * 30103).fdiv 100000 - 1
  ([0, 1, 2, 3].map (estimate + ·)).find? (fun k => q < (10 : Rat) ^ k) |>.getD (estimate + 4)

/-- Whether the decimal is read as the number. -/
def readsBack (x : Double) (d : Decimal) : Bool := Double.nearest x.negative d.toRat == x

/-- Of the two neighbours of a number among the multiples of `10 ^ exponent`, those that read back,
the better one first. -/
def candidates (x : Double) (exponent : Int) : List Decimal :=
  let position := x.magnitude / (10 : Rat) ^ exponent
  let below := position.floor.toNat
  let order := if roundHalfEven position = below then [below, below + 1] else [below + 1, below]
  (order.map (Decimal.mk · exponent)).filter (readsBack x)

/-- The digits without the zeros at their end, which move into the exponent. -/
def strip : Nat → Decimal → Decimal
  | 0, d => d
  | fuel + 1, d =>
    if d.digits % 10 = 0 ∧ d.digits ≠ 0 then strip fuel ⟨d.digits / 10, d.exponent + 1⟩ else d

/-- The shortest decimal that reads back to a finite number. Seventeen digits always do. -/
def shortest (x : Double) : Decimal :=
  if x.isZero then ⟨0, 0⟩
  else
    let top := scale x
    let found := (List.range 17).findSome? fun (n : Nat) => (candidates x (top - (n + 1))).head?
    strip 17 (found.getD ⟨(x.magnitude / (10 : Rat) ^ (top - 17)).floor.toNat, top - 17⟩)

/-- The least exponent of the leading digit that is written positionally. -/
def positionalFrom : Int := -4

/-- The greatest exponent of the leading digit that is written positionally. -/
def positionalTo : Int := 15

/-- The exponent after its mark: a sign and at least two digits. -/
def exponentText (e : Int) : String :=
  let digits := toString e.natAbs
  (if e < 0 then "e-" else "e+") ++ (if digits.length < 2 then "0" ++ digits else digits)

/-- A decimal as text. -/
def text (d : Decimal) : String :=
  let digits := (toString d.digits).toList
  let leading : Int := d.exponent + digits.length - 1
  if leading < positionalFrom ∨ positionalTo < leading then
    let fraction := digits.drop 1
    String.ofList (digits.take 1 ++ if fraction.isEmpty then [] else '.' :: fraction) ++
      exponentText leading
  else if leading < 0 then
    "0." ++ String.ofList (List.replicate (-leading - 1).toNat '0' ++ digits)
  else
    let whole := leading.toNat + 1
    let fraction := digits.drop whole
    String.ofList (digits.take whole ++ List.replicate (whole - digits.length) '0' ++
      '.' :: if fraction.isEmpty then ['0'] else fraction)

end Decimal

namespace Double

/-- The sign in front of a number. -/
def signText (d : Double) : String := if d.negative then "-" else ""

/-- A number with the fewest digits that read back to it. -/
def text (d : Double) : String :=
  d.signText ++ match d with
    | infinite _ => "inf"
    | nan => "nan"
    | d => (Decimal.shortest d).text

/-- A number with one place after the point: the nearest multiple of a tenth, a half to the even
one. -/
def oneDecimal (d : Double) : String :=
  d.signText ++ match d with
    | infinite _ => "inf"
    | nan => "nan"
    | d =>
      let tenths := (roundHalfEven (d.magnitude * 10)).toNat
      toString (tenths / 10) ++ "." ++ toString (tenths % 10)

end Double

end Chip8
