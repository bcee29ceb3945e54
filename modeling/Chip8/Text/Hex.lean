/-!
# Hexadecimal

Numbers in base sixteen: digits by value, a fixed number of places, and at least so many places. A
negative number carries its sign in front of the digits.
-/

namespace Chip8.Hex

/-- The upper-case digit of a value below sixteen. -/
def upperDigit (d : Nat) : Char := if d < 10 then Char.ofNat (0x30 + d) else Char.ofNat (0x37 + d)

/-- The lower-case digit of a value below sixteen. -/
def lowerDigit (d : Nat) : Char := if d < 10 then Char.ofNat (0x30 + d) else Char.ofNat (0x57 + d)

/-- The last `places` digits of `n`, the most significant first. -/
def places (digit : Nat → Char) : Nat → Nat → List Char
  | 0, _ => []
  | count + 1, n => places digit count (n / 16) ++ [digit (n % 16)]

/-- How many digits `n` has; zero has one. -/
def digitCount (n : Nat) : Nat := n.log2 / 4 + 1

/-- Upper-case digits of `n`, padded with zeros to at least `width` places. -/
def upper (width n : Nat) : String := String.ofList (places upperDigit (max width (digitCount n)) n)

/-- Lower-case digits of `n`, padded with zeros to at least `width` places. -/
def lower (width n : Nat) : String := String.ofList (places lowerDigit (max width (digitCount n)) n)

/-- Upper-case digits of an integer; a sign counts as one of the `width` places. -/
def upperInt (width : Nat) : Int → String
  | .ofNat n => upper width n
  | .negSucc n => "-" ++ upper (width - 1) (n + 1)

/-- A number is written in as many places as it was asked for. -/
@[simp] theorem length_places (digit : Nat → Char) (count n : Nat) :
    (places digit count n).length = count := by
  induction count generalizing n with
  | zero => rfl
  | succ count ih => simp [places, ih]

end Chip8.Hex
