import Chip8.Word

/-!
# Arithmetic with a flag

Two-register operations give a byte and a flag: the carry of a sum, the borrow of a difference, the
bits a shift pushes out. The two differences use the flag in opposite ways.
-/

namespace Chip8

/-- What a shift leaves in the flag register. -/
inductive ShiftFlag where
  /-- The bit that was pushed out. -/
  | bit
  /-- The nibble the bit came from: the low one for a shift right, the high one, moved down by a
  place, for a shift left. -/
  | nibble
deriving DecidableEq, Repr, Inhabited

/-- The two ways, in the order in which they are offered. -/
def ShiftFlag.all : List ShiftFlag := [bit, nibble]

/-- The name by which a way is chosen. -/
def ShiftFlag.name : ShiftFlag → String
  | bit => "bit"
  | nibble => "nibble"

/-- A result and what goes into the flag register. -/
structure Flagged where
  result : Byte
  flag : Byte
deriving DecidableEq, Repr

namespace Flagged

/-- The sum; the flag is the carry. -/
def add (a b : Byte) : Flagged := ⟨a + b, if a.toNat + b.toNat > 0xFF then 1 else 0⟩

/-- The difference `a - b`; the flag is the borrow. -/
def sub (a b : Byte) : Flagged := ⟨a - b, if a < b then 1 else 0⟩

/-- The difference `b - a`; the flag is zero if there is a borrow. -/
def subFrom (a b : Byte) : Flagged := ⟨b - a, if b < a then 0 else 1⟩

/-- Half of `a`. -/
def shiftRight (mode : ShiftFlag) (a : Byte) : Flagged :=
  ⟨a >>> 1, match mode with
    | .bit => a &&& 1
    | .nibble => a &&& 0x0F⟩

/-- Twice `a`. -/
def shiftLeft (mode : ShiftFlag) (a : Byte) : Flagged :=
  ⟨a <<< 1, match mode with
    | .bit => a >>> 7
    | .nibble => (a &&& 0xF0) >>> 1⟩

end Flagged

end Chip8
