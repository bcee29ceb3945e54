import Chip8.Machine.Memory

/-!
# Execution

What each instruction does. An instruction is first asked whether the machine refuses it; that
question changes nothing. An instruction that is not refused has an effect, and an effect cannot
fail, so a failing instruction leaves no trace.
-/

namespace Chip8

/-- How many bytes from the index register an instruction reads or writes. -/
def Instruction.spanLength (i : Instruction) : Nat :=
  match i.op with
  | .draw => i.n.toNat
  | .storeDecimal => 3
  | .store | .load => i.x.toNat + 1
  | _ => 0

namespace Machine

/-- Why the machine refuses an instruction: a return without a call, a call too many, or a stretch
of memory that leaves a strict machine. -/
def fault? (m : Machine) (i : Instruction) : Option Fault :=
  match i.op with
  | .ret => if m.calls.pointer.val = 0 then some (.returnAt m.pc) else none
  | .call => if Layout.stackDepth ≤ m.calls.pointer then some (.callAt m.pc) else none
  | _ => m.spanFault? i.spanLength

/-- The three decimal digits of a byte. -/
def decimalDigits (b : Byte) : List Byte := [b / 100, b / 10 % 10, b % 10]

/-- Back to the instruction after the latest call. -/
def returnFromCall (m : Machine) : Machine :=
  match m.calls.top? with
  | none => m
  | some caller => { m with calls := m.calls.pop, pc := (caller + 2).wrap }

/-- A sprite of `height` bytes drawn at the column `x` and the row `y`; the flag tells whether a lit
cell was darkened. -/
def drawSprite (m : Machine) (x y : Byte) (height : Nat) : Machine :=
  let cells := Screen.spriteCells x y (m.readSpan height)
  let flag := if m.screen.hits cells then 1 else 0
  { m with screen := m.screen.flipAll cells, redraw := true }.setV flagRegister flag

/-- The lowest key that is down goes into a register and is consumed. Without one the machine stays
where it is. -/
def takeKey (m : Machine) (r : Nibble) : Machine :=
  match m.lowestDown? with
  | none => m
  | some k => ((m.setV r (k.zeroExtend 8)).setDown k false).next

/-- What an instruction does to a machine that does not refuse it. -/
def effect (m : Machine) (i : Instruction) : Machine :=
  let vx := m.v i.x
  let vy := m.v i.y
  match i.op with
  | .cls => { m with screen := .blank, redraw := true }.next
  | .ret => m.returnFromCall
  | .sys => (m.note .sysIgnored).next
  | .jp => m.jump i.nnn
  | .call => { m with calls := m.calls.push m.pc }.jump i.nnn
  | .skipEqByte => m.skipIf (vx == i.nn)
  | .skipNeByte => m.skipIf (vx != i.nn)
  | .skipEq => m.skipIf (vx == vy)
  | .loadByte => (m.setV i.x i.nn).next
  | .addByte => (m.setV i.x (vx + i.nn)).next
  | .copy => (m.setV i.x vy).next
  | .or => (m.setV i.x (vx ||| vy)).next
  | .and => (m.setV i.x (vx &&& vy)).next
  | .xor => (m.setV i.x (vx ^^^ vy)).next
  | .add => (m.setFlagged i.x (.add vx vy)).next
  | .sub => (m.setFlagged i.x (.sub vx vy)).next
  | .shr => (m.setFlagged i.x (.shiftRight m.options.shiftFlag vx)).next
  | .subn => (m.setFlagged i.x (.subFrom vx vy)).next
  | .shl => (m.setFlagged i.x (.shiftLeft m.options.shiftFlag vx)).next
  | .skipNe => m.skipIf (vx != vy)
  | .loadIndex => { m with index := i.nnn.toWord }.next
  | .jpOffset => { m with pc := Word.wrap ((m.v 0).zeroExtend 16 + i.nnn.toWord) }
  | .random => { m.setV i.x (m.random.peek &&& i.nn) with random := m.random.advance }.next
  | .draw => (m.drawSprite vx vy i.n.toNat).next
  | .skipKey => m.skipIf (m.isDown (vx.extractLsb' 0 4))
  | .skipNoKey =>
    let k := vx.extractLsb' 0 4
    if m.isDown k then (m.setDown k false).next else m.skipIf true
  | .readDelay => (m.setV i.x m.delayTimer).next
  | .waitKey => m.takeKey i.x
  | .setDelay => { m with delayTimer := vx }.next
  | .setSound => { m with soundTimer := vx }.next
  | .addIndex => { m with index := m.index + vx.zeroExtend 16 }.next
  | .loadGlyph => { m with index := vx.zeroExtend 16 * Layout.glyphSize }.next
  | .storeDecimal => (m.writeSpan (decimalDigits vx)).next
  | .store => (m.writeSpan (m.registersTo i.x)).next
  | .load => (m.setRegisters 0 (m.readSpan i.spanLength)).next
  | .unknown =>
    ({ m with unknownOpcodes := m.unknownOpcodes + 1 }.note (.unknownOpcode i.opcode)).next

/-- An instruction executed, or the fault for which it is refused. -/
def execute (m : Machine) (i : Instruction) : Except Fault Machine :=
  match m.fault? i with
  | some f => .error f
  | none => .ok (m.effect i)

end Machine

end Chip8
