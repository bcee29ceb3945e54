/-!
# Words

The four widths the machine works in. A register or memory cell is a byte, an instruction is a word
of two bytes, a register number is a nibble, and memory is addressed by twelve bits.
-/

namespace Chip8

/-- The content of a register, a timer or a memory cell. -/
abbrev Byte := BitVec 8

/-- An instruction, the index register or the program counter. -/
abbrev Word := BitVec 16

/-- A register number, a key number or the height of a sprite. -/
abbrev Nibble := BitVec 4

/-- A place in memory. -/
abbrev Address := BitVec 12

namespace Word

/-- The word stored as two bytes, the high one first. -/
def ofBytes (high low : Byte) : Word := high ++ low

/-- The same value with the bits above the twelfth cleared. -/
def wrap (w : Word) : Word := w &&& 0xFFF#16

/-- The twelve low bits. -/
def address (w : Word) : Address := w.extractLsb' 0 12

end Word

/-- A place in memory as a word. -/
def Address.toWord (a : Address) : Word := a.zeroExtend 16

/-- A wrapped word is at most the last address. -/
theorem Word.toNat_wrap_le (w : Word) : w.wrap.toNat ≤ 0xFFF := by
  rw [wrap, BitVec.toNat_and]
  exact Nat.and_le_right

/-- A place in memory is at most the last address. -/
theorem Address.toNat_toWord_le (a : Address) : a.toWord.toNat ≤ 0xFFF := by
  rw [toWord, BitVec.zeroExtend_eq_setWidth, BitVec.toNat_setWidth]
  omega

end Chip8
