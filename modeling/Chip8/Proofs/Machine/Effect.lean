import Mathlib.Tactic.Lemma
import Chip8.Machine.Step

/-!
# The effect of an instruction, field by field

`effect` says for each instruction what becomes of the machine. Here the same is said the other way
round, for each field what the instructions do to it: `nextMemory`, `nextRegisters`, `successor` and
so on, each of which names the few instructions that touch its field. `effect_eq` states that the
two readings agree; a field not among those of `effect_eq` is never touched.
-/

namespace Chip8.Machine

variable (m : Machine) (i : Instruction)

/-! ## Fields -/

/-- Memory changes where decimal digits or registers are stored. -/
def nextMemory : Vector Byte Layout.memorySize :=
  match i.op with
  | .storeDecimal => (m.writeSpan (decimalDigits (m.v i.x))).memory
  | .store => (m.writeSpan (m.registersTo i.x)).memory
  | _ => m.memory

/-- Results go to the first operand, flags to the flag register, and a stretch of memory to the
registers from the first one on. -/
def nextRegisters : Vector Byte Layout.registerCount :=
  match i.op with
  | .loadByte => (m.setV i.x i.nn).registers
  | .addByte => (m.setV i.x (m.v i.x + i.nn)).registers
  | .copy => (m.setV i.x (m.v i.y)).registers
  | .or => (m.setV i.x (m.v i.x ||| m.v i.y)).registers
  | .and => (m.setV i.x (m.v i.x &&& m.v i.y)).registers
  | .xor => (m.setV i.x (m.v i.x ^^^ m.v i.y)).registers
  | .add => (m.setFlagged i.x (.add (m.v i.x) (m.v i.y))).registers
  | .sub => (m.setFlagged i.x (.sub (m.v i.x) (m.v i.y))).registers
  | .shr => (m.setFlagged i.x (.shiftRight m.options.shiftFlag (m.v i.x))).registers
  | .subn => (m.setFlagged i.x (.subFrom (m.v i.x) (m.v i.y))).registers
  | .shl => (m.setFlagged i.x (.shiftLeft m.options.shiftFlag (m.v i.x))).registers
  | .random => (m.setV i.x (m.random.peek &&& i.nn)).registers
  | .draw => (m.drawSprite (m.v i.x) (m.v i.y) i.n.toNat).registers
  | .readDelay => (m.setV i.x m.delayTimer).registers
  | .waitKey =>
    match m.lowestDown? with
    | some k => (m.setV i.x (k.zeroExtend 8)).registers
    | none => m.registers
  | .load => (m.setRegisters 0 (m.readSpan i.spanLength)).registers
  | _ => m.registers

/-- The index register changes where it is loaded, added to or pointed at a glyph. -/
def nextIndex : Word :=
  match i.op with
  | .loadIndex => i.nnn.toWord
  | .addIndex => m.index + (m.v i.x).zeroExtend 16
  | .loadGlyph => (m.v i.x).zeroExtend 16 * Layout.glyphSize
  | _ => m.index

/-- Whether an instruction skips the next one. -/
def skips : Bool :=
  match i.op with
  | .skipEqByte => m.v i.x == i.nn
  | .skipNeByte => m.v i.x != i.nn
  | .skipEq => m.v i.x == m.v i.y
  | .skipNe => m.v i.x != m.v i.y
  | .skipKey => m.isDown ((m.v i.x).extractLsb' 0 4)
  | .skipNoKey => !m.isDown ((m.v i.x).extractLsb' 0 4)
  | _ => false

/-- Where the program goes on. -/
def successor : Word :=
  match i.op with
  | .jp | .call => i.nnn.toWord
  | .jpOffset => Word.wrap ((m.v 0).zeroExtend 16 + i.nnn.toWord)
  | .ret => (m.stack.head?.map fun caller => (caller + 2).wrap).getD m.pc
  | .waitKey => if m.lowestDown?.isSome then (m.pc + 2).wrap else m.pc
  | _ => (m.pc + if m.skips i then 4 else 2).wrap

/-- Only returns and calls change the stack. -/
def nextCalls : CallStack :=
  match i.op with
  | .ret => m.calls.pop
  | .call => m.calls.push m.pc
  | _ => m.calls

/-- The screen changes where it is cleared or drawn on. -/
def nextScreen : Screen :=
  match i.op with
  | .cls => .blank
  | .draw => (m.drawSprite (m.v i.x) (m.v i.y) i.n.toNat).screen
  | _ => m.screen

/-- A key is released where it is consumed. -/
def nextKeys : Vector Bool Layout.keyCount :=
  match i.op with
  | .skipNoKey => (m.setDown ((m.v i.x).extractLsb' 0 4) false).keys
  | .waitKey =>
    match m.lowestDown? with
    | some k => (m.setDown k false).keys
    | none => m.keys
  | _ => m.keys

/-- The log with an entry for which there is only room while logging is on. -/
def logged (e : LogEntry) : List LogEntry := if m.logging then e :: m.log else m.log

/-- Two instructions tell the log why nothing happens. -/
def nextLog : List LogEntry :=
  match i.op with
  | .sys => m.logged .sysIgnored
  | .unknown => m.logged (.unknownOpcode i.opcode)
  | _ => m.log

/-! ## Small changes that branch or recur -/

/-- Logging touches the log alone. -/
lemma note_eq (e : LogEntry) : m.note e = { m with log := m.logged e } := by
  rw [note, logged]
  split
  · rfl
  · rfl

/-- Skipping touches the program counter alone. -/
lemma skipIf_eq (condition : Bool) :
    m.skipIf condition = { m with pc := (m.pc + if condition then 4 else 2).wrap } := by
  cases condition with
  | true => rfl
  | false => rfl

/-- Writing bytes touches memory alone. -/
lemma writeFrom_eq (start : Nat) (bytes : List Byte) :
    m.writeFrom start bytes = { m with memory := (m.writeFrom start bytes).memory } := by
  induction bytes generalizing m start with
  | nil => rfl
  | cons b bytes ih => exact ih (m.setByte (BitVec.ofNat 12 start) b) (start + 1)

/-- Filling registers touches the registers alone. -/
lemma setRegisters_eq (first : Nat) (bytes : List Byte) :
    m.setRegisters first bytes =
      { m with registers := (m.setRegisters first bytes).registers } := by
  induction bytes generalizing m first with
  | nil => rfl
  | cons b bytes ih => exact ih (m.setV (BitVec.ofNat 4 first) b) (first + 1)

/-- Returning takes the latest call off the stack and goes on behind it. -/
lemma returnFromCall_eq :
    m.returnFromCall =
      { m with
        calls := m.calls.pop
        pc := (m.stack.head?.map fun caller => (caller + 2).wrap).getD m.pc } := by
  rw [returnFromCall, stack, ← CallStack.top?_eq]
  split
  · next none =>
    rw [CallStack.pop_of_top?_eq_none none, none]
    rfl
  · next some =>
    rw [some]
    rfl

/-- Taking a key touches a register, the key and the program counter. -/
lemma takeKey_eq (r : Nibble) :
    m.takeKey r =
      { m with
        registers :=
          match m.lowestDown? with
          | some k => (m.setV r (k.zeroExtend 8)).registers
          | none => m.registers
        keys :=
          match m.lowestDown? with
          | some k => (m.setDown k false).keys
          | none => m.keys
        pc := if m.lowestDown?.isSome then (m.pc + 2).wrap else m.pc } := by
  rw [takeKey]
  cases m.lowestDown? with
  | none => rfl
  | some k => rfl

/-- Releasing a key that is up changes nothing. -/
lemma setDown_of_up {k : Nibble} (up : m.isDown k = false) : m.setDown k false = m := by
  have same : m.keys.set k.toNat false k.isLt = m.keys := by
    rw [← up]
    exact Vector.set_getElem_self _
  rw [setDown, same]

/-- A key that is down is released, for a key that is up the next instruction is skipped. -/
lemma releaseOrSkip_eq (k : Nibble) :
    (if m.isDown k then (m.setDown k false).next else m.skipIf true) =
      { m with
        keys := (m.setDown k false).keys
        pc := (m.pc + if !m.isDown k then 4 else 2).wrap } := by
  by_cases down : m.isDown k = true
  · rw [if_pos down, down]
    rfl
  · have up := Bool.eq_false_iff.2 down
    rw [if_neg down, up, setDown_of_up m up]
    rfl

/-! ## The two readings agree -/

/-- The effect of an instruction, field by field. -/
theorem effect_eq :
    m.effect i =
      { m with
        memory := m.nextMemory i
        registers := m.nextRegisters i
        index := m.nextIndex i
        pc := m.successor i
        calls := m.nextCalls i
        delayTimer := if i.op = .setDelay then m.v i.x else m.delayTimer
        soundTimer := if i.op = .setSound then m.v i.x else m.soundTimer
        screen := m.nextScreen i
        keys := m.nextKeys i
        redraw := if i.op = .cls ∨ i.op = .draw then true else m.redraw
        unknownOpcodes := if i.op = .unknown then m.unknownOpcodes + 1 else m.unknownOpcodes
        random := if i.op = .random then m.random.advance else m.random
        log := m.nextLog i } := by
  obtain ⟨op, opcode⟩ := i
  cases op with
  | sys => exact congrArg next (note_eq m _)
  | unknown => exact congrArg next (note_eq { m with unknownOpcodes := m.unknownOpcodes + 1 } _)
  | ret => exact returnFromCall_eq m
  | skipEqByte | skipNeByte | skipEq | skipNe | skipKey => exact skipIf_eq m _
  | skipNoKey => exact releaseOrSkip_eq m _
  | waitKey => exact takeKey_eq m _
  | storeDecimal => exact congrArg next (writeFrom_eq m _ (decimalDigits _))
  | store => exact congrArg next (writeFrom_eq m _ (m.registersTo _))
  | load => exact congrArg next (setRegisters_eq m _ _)
  | _ => rfl

end Chip8.Machine
