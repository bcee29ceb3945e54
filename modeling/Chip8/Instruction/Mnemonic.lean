import Chip8.Instruction.Decode
import Chip8.Text.Hex

/-!
# Mnemonics

The assembly text of an instruction: a name and operands between commas. Registers are one
upper-case digit after `V`, bytes two digits, addresses three, all hexadecimal; the height of a
sprite is decimal.
-/

namespace Chip8

/-- An operand of an assembly line. -/
inductive Operand where
  | register (r : Nibble)
  | byte (k : Byte)
  | address (a : Address)
  | word (w : Word)
  | height (n : Nibble)
  /-- A register or a place of memory that has a name of its own. -/
  | named (name : String)
deriving DecidableEq, Repr

/-- How an operand is written. -/
def Operand.text : Operand → String
  | register r => "V" ++ Hex.upper 1 r.toNat
  | byte k => Hex.upper 2 k.toNat
  | address a => Hex.upper 3 a.toNat
  | word w => Hex.upper 4 w.toNat
  | height n => toString n.toNat
  | named name => name

/-- A name and its operands. -/
structure Assembly where
  name : String
  operands : List Operand
deriving DecidableEq, Repr

/-- An assembly line as text. -/
def Assembly.text (line : Assembly) : String :=
  match line.operands with
  | [] => line.name
  | operands => line.name ++ " " ++ ", ".intercalate (operands.map Operand.text)

namespace Instruction

/-- The assembly line of an instruction. A shift does not show its second register, which it
ignores. -/
def assembly (i : Instruction) : Assembly :=
  let vx := Operand.register i.x
  let vy := Operand.register i.y
  match i.op with
  | .cls => ⟨"CLS", []⟩
  | .ret => ⟨"RET", []⟩
  | .sys => ⟨"SYS", [.address i.nnn]⟩
  | .jp => ⟨"JP", [.address i.nnn]⟩
  | .call => ⟨"CALL", [.address i.nnn]⟩
  | .skipEqByte => ⟨"SE", [vx, .byte i.nn]⟩
  | .skipNeByte => ⟨"SNE", [vx, .byte i.nn]⟩
  | .skipEq => ⟨"SE", [vx, vy]⟩
  | .loadByte => ⟨"LD", [vx, .byte i.nn]⟩
  | .addByte => ⟨"ADD", [vx, .byte i.nn]⟩
  | .copy => ⟨"LD", [vx, vy]⟩
  | .or => ⟨"OR", [vx, vy]⟩
  | .and => ⟨"AND", [vx, vy]⟩
  | .xor => ⟨"XOR", [vx, vy]⟩
  | .add => ⟨"ADD", [vx, vy]⟩
  | .sub => ⟨"SUB", [vx, vy]⟩
  | .shr => ⟨"SHR", [vx]⟩
  | .subn => ⟨"SUBN", [vx, vy]⟩
  | .shl => ⟨"SHL", [vx]⟩
  | .skipNe => ⟨"SNE", [vx, vy]⟩
  | .loadIndex => ⟨"LD", [.named "I", .address i.nnn]⟩
  | .jpOffset => ⟨"JP", [.named "V0", .address i.nnn]⟩
  | .random => ⟨"RND", [vx, .byte i.nn]⟩
  | .draw => ⟨"DRW", [vx, vy, .height i.n]⟩
  | .skipKey => ⟨"SKP", [vx]⟩
  | .skipNoKey => ⟨"SKNP", [vx]⟩
  | .readDelay => ⟨"LD", [vx, .named "DT"]⟩
  | .waitKey => ⟨"LD", [vx, .named "K"]⟩
  | .setDelay => ⟨"LD", [.named "DT", vx]⟩
  | .setSound => ⟨"LD", [.named "ST", vx]⟩
  | .addIndex => ⟨"ADD", [.named "I", vx]⟩
  | .loadGlyph => ⟨"LD", [.named "F", vx]⟩
  | .storeDecimal => ⟨"LD", [.named "B", vx]⟩
  | .store => ⟨"LD", [.named "[I]", vx]⟩
  | .load => ⟨"LD", [vx, .named "[I]"]⟩
  | .unknown => ⟨"DW", [.word i.opcode]⟩

/-- The assembly text of an instruction. -/
def mnemonic (i : Instruction) : String := i.assembly.text

end Instruction

end Chip8
