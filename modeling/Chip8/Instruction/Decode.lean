import Chip8.Instruction.Op
import Chip8.Word

/-!
# Decoding

Every word is an instruction. A table of patterns, each a mask and the bits under it, names the
operation; the first pattern that accepts a word wins, and a word no pattern accepts is
`Op.unknown`. The operands are fields of the word at fixed places, whatever the operation.
-/

namespace Chip8

/-- The words that agree with `bits` under `mask` are instructions of kind `op`. -/
structure Pattern where
  mask : Word
  bits : Word
  op : Op
deriving DecidableEq, Repr

/-- Whether a word agrees with the pattern. -/
def Pattern.accepts (p : Pattern) (w : Word) : Bool := w &&& p.mask == p.bits

/-- The documented instructions. The two words that are special cases of `SYS` come before it. -/
def Pattern.table : List Pattern := [
  ⟨0xFFFF, 0x00E0, .cls⟩,
  ⟨0xFFFF, 0x00EE, .ret⟩,
  ⟨0xF000, 0x0000, .sys⟩,
  ⟨0xF000, 0x1000, .jp⟩,
  ⟨0xF000, 0x2000, .call⟩,
  ⟨0xF000, 0x3000, .skipEqByte⟩,
  ⟨0xF000, 0x4000, .skipNeByte⟩,
  ⟨0xF00F, 0x5000, .skipEq⟩,
  ⟨0xF000, 0x6000, .loadByte⟩,
  ⟨0xF000, 0x7000, .addByte⟩,
  ⟨0xF00F, 0x8000, .copy⟩,
  ⟨0xF00F, 0x8001, .or⟩,
  ⟨0xF00F, 0x8002, .and⟩,
  ⟨0xF00F, 0x8003, .xor⟩,
  ⟨0xF00F, 0x8004, .add⟩,
  ⟨0xF00F, 0x8005, .sub⟩,
  ⟨0xF00F, 0x8006, .shr⟩,
  ⟨0xF00F, 0x8007, .subn⟩,
  ⟨0xF00F, 0x800E, .shl⟩,
  ⟨0xF00F, 0x9000, .skipNe⟩,
  ⟨0xF000, 0xA000, .loadIndex⟩,
  ⟨0xF000, 0xB000, .jpOffset⟩,
  ⟨0xF000, 0xC000, .random⟩,
  ⟨0xF000, 0xD000, .draw⟩,
  ⟨0xF0FF, 0xE09E, .skipKey⟩,
  ⟨0xF0FF, 0xE0A1, .skipNoKey⟩,
  ⟨0xF0FF, 0xF007, .readDelay⟩,
  ⟨0xF0FF, 0xF00A, .waitKey⟩,
  ⟨0xF0FF, 0xF015, .setDelay⟩,
  ⟨0xF0FF, 0xF018, .setSound⟩,
  ⟨0xF0FF, 0xF01E, .addIndex⟩,
  ⟨0xF0FF, 0xF029, .loadGlyph⟩,
  ⟨0xF0FF, 0xF033, .storeDecimal⟩,
  ⟨0xF0FF, 0xF055, .store⟩,
  ⟨0xF0FF, 0xF065, .load⟩]

/-- Every operation once, in the order of the table, and `unknown` at the end. -/
def Op.all : List Op := Pattern.table.map Pattern.op ++ [.unknown]

/-- A word and the operation it stands for. -/
structure Instruction where
  op : Op
  opcode : Word
deriving DecidableEq, Repr

namespace Instruction

/-- The first register operand. -/
def x (i : Instruction) : Nibble := i.opcode.extractLsb' 8 4

/-- The second register operand. -/
def y (i : Instruction) : Nibble := i.opcode.extractLsb' 4 4

/-- The lowest nibble, the height of a sprite. -/
def n (i : Instruction) : Nibble := i.opcode.extractLsb' 0 4

/-- The byte operand. -/
def nn (i : Instruction) : Byte := i.opcode.extractLsb' 0 8

/-- The address operand. -/
def nnn (i : Instruction) : Address := i.opcode.extractLsb' 0 12

/-- Decoding by a given table: the first pattern that accepts the word names it. -/
def decodeWith (table : List Pattern) (w : Word) : Instruction :=
  ⟨((table.find? (·.accepts w)).map Pattern.op).getD .unknown, w⟩

/-- The instruction a word stands for. -/
def decode (w : Word) : Instruction := decodeWith Pattern.table w

/-- The instruction of the low sixteen bits of an integer, in two's complement. -/
def ofInt (w : Int) : Instruction := decode (BitVec.ofInt 16 w)

/-- An instruction keeps the word that it stands for. -/
@[simp] theorem opcode_decode (w : Word) : (decode w).opcode = w := rfl

end Instruction

end Chip8
