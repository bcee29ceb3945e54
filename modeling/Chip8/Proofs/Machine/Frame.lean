import Mathlib.Tactic.ByContra
import Chip8.Machine.Operation
import Chip8.Proofs.Machine.Addressing
import Chip8.Proofs.Machine.Step

/-!
# The frame of a step

What a step that is done leaves alone, and where it goes on. `Instruction.writes` and `stores` name
the registers and the addresses that an instruction may change, by the form of the instruction
alone; `Frame` says that nothing else of the machine changes, and what becomes of the counters.
`GoesOn` lists where the program goes on, as rules no two of which apply at once. `step_frame` is
the statement for every step that is done.
-/

namespace Chip8

/-- The registers that an instruction may change. -/
def Instruction.writes (i : Instruction) (r : Nibble) : Prop :=
  match i.op with
  | .loadByte | .addByte | .copy | .or | .and | .xor | .random | .readDelay | .waitKey => r = i.x
  | .add | .sub | .shr | .subn | .shl => r = i.x ∨ r = Machine.flagRegister
  | .draw => r = Machine.flagRegister
  | .load => r.toNat ≤ i.x.toNat
  | _ => False

namespace Machine

variable {m m' : Machine} {i : Instruction}

/-- The addresses at which an instruction may change memory. -/
def stores (m : Machine) (i : Instruction) (a : Address) : Prop :=
  match i.op with
  | .storeDecimal => ∃ j < 3, a = BitVec.ofNat 12 (m.index.toNat + j)
  | .store => ∃ j ≤ i.x.toNat, a = BitVec.ofNat 12 (m.index.toNat + j)
  | _ => False

/-- What an instruction changes at most, and what it counts. -/
structure Frame (m : Machine) (i : Instruction) (m' : Machine) : Prop where
  memory : ∀ a, m'.byteAt a ≠ m.byteAt a → m.stores i a
  screen : m'.screen ≠ m.screen → i.op = .cls ∨ i.op = .draw
  registers : ∀ r, m'.v r ≠ m.v r → i.writes r
  index : m'.index ≠ m.index → i.op = .loadIndex ∨ i.op = .addIndex ∨ i.op = .loadGlyph
  /-- Neither the pointer of the stack moves nor does a cell of it change, used or not. -/
  calls : m'.calls ≠ m.calls → i.op = .call ∨ i.op = .ret
  keys : m'.keys ≠ m.keys → i.op = .skipNoKey ∨ i.op = .waitKey
  /-- The request for a redraw is made by two instructions and taken back by none. -/
  redraw : m'.redraw = true ↔ m.redraw = true ∨ i.op = .cls ∨ i.op = .draw
  unknownOpcodes : m'.unknownOpcodes = m.unknownOpcodes + if i.op = .unknown then 1 else 0
  /-- One instruction draws a random byte, always from the same sequence. -/
  random : m'.random.itemAt = m.random.itemAt ∧
    m'.random.drawn = m.random.drawn + if i.op = .random then 1 else 0
  cycles : m'.cycles = m.cycles + 1

/-- Where the program goes on after an instruction. -/
inductive GoesOn (m : Machine) (i : Instruction) : Word → Prop where
  /-- At the operand. -/
  | jump :
    i.op = .jp ∨ i.op = .call →
    m.GoesOn i i.nnn.toWord
  /-- At the operand and the first register. -/
  | jumpOffset :
    i.op = .jpOffset →
    m.GoesOn i (((m.v 0).zeroExtend 16 + i.nnn.toWord) &&& 0xFFF#16)
  /-- Behind the latest call. -/
  | ret {caller callers} :
    i.op = .ret →
    m.stack = caller :: callers →
    m.GoesOn i ((caller + 2) &&& 0xFFF#16)
  /-- At the same instruction, while it waits for a key. -/
  | stall :
    i.op = .waitKey →
    (∀ k, m.isDown k = false) →
    m.GoesOn i m.pc
  /-- Behind the next instruction. -/
  | skip :
    m.skips i = true →
    m.GoesOn i ((m.pc + 4) &&& 0xFFF#16)
  /-- At the next instruction. -/
  | next :
    i.op ≠ .jp ∧ i.op ≠ .call ∧ i.op ≠ .jpOffset ∧ i.op ≠ .ret →
    (i.op = .waitKey → ∃ k, m.isDown k = true) →
    m.skips i = false →
    m.GoesOn i ((m.pc + 2) &&& 0xFFF#16)

/-! ## Memory and registers -/

/-- Writing a byte leaves the others. -/
lemma byteAt_setByte_of_ne {a p : Address} (b : Byte) (other : a ≠ p) :
    (m.setByte p b).byteAt a = m.byteAt a := by
  have ne : p.toNat ≠ a.toNat := fun same => other (BitVec.eq_of_toNat_eq same.symm)
  exact Vector.getElem_set_ne p.isLt a.isLt ne

/-- A byte that is written is there. -/
lemma byteAt_setByte (a : Address) (b : Byte) : (m.setByte a b).byteAt a = b :=
  Vector.getElem_set_self a.isLt

/-- A register that is set holds its new content. -/
lemma v_setV (r : Nibble) (b : Byte) : (m.setV r b).v r = b := Vector.getElem_set_self r.isLt

/-- Setting a register leaves the others. -/
lemma v_setV_of_ne {r s : Nibble} (b : Byte) (other : r ≠ s) : (m.setV s b).v r = m.v r := by
  have ne : s.toNat ≠ r.toNat := fun same => other (BitVec.eq_of_toNat_eq same.symm)
  exact Vector.getElem_set_ne s.isLt r.isLt ne

/-- Writing bytes one after the other changes no byte beyond them. -/
lemma byteAt_writeFrom_of_forall_ne {a : Address} {start : Nat} {bytes : List Byte}
    (beyond : ∀ j < bytes.length, a ≠ BitVec.ofNat 12 (start + j)) :
    (m.writeFrom start bytes).byteAt a = m.byteAt a := by
  induction bytes generalizing m start with
  | nil => rfl
  | cons b bytes ih =>
    have first : a ≠ BitVec.ofNat 12 start := beyond 0 (Nat.succ_pos _)
    have rest : ∀ j < bytes.length, a ≠ BitVec.ofNat 12 (start + 1 + j) := by
      intro j inside
      rw [Nat.add_assoc, Nat.add_comm 1 j]
      exact beyond (j + 1) (Nat.succ_lt_succ inside)
    rw [writeFrom, ih rest, byteAt_setByte_of_ne b first]

/-- Filling registers one after the other changes no register beyond them. -/
lemma v_setRegisters_of_forall_ne {r : Nibble} {first : Nat} {bytes : List Byte}
    (beyond : ∀ j < bytes.length, r ≠ BitVec.ofNat 4 (first + j)) :
    (m.setRegisters first bytes).v r = m.v r := by
  induction bytes generalizing m first with
  | nil => rfl
  | cons b bytes ih =>
    have here : r ≠ BitVec.ofNat 4 first := beyond 0 (Nat.succ_pos _)
    have rest : ∀ j < bytes.length, r ≠ BitVec.ofNat 4 (first + 1 + j) := by
      intro j inside
      rw [Nat.add_assoc, Nat.add_comm 1 j]
      exact beyond (j + 1) (Nat.succ_lt_succ inside)
    rw [setRegisters, ih rest, v_setV_of_ne b here]

/-- Bytes that are written one after the other are found where they were written, if they fit into
memory. -/
lemma byteAt_writeFrom {bytes : List Byte} {start j : Nat} (fits : bytes.length ≤ Layout.memorySize)
    (inside : j < bytes.length) :
    (m.writeFrom start bytes).byteAt (BitVec.ofNat 12 (start + j)) = bytes[j] := by
  induction bytes generalizing m start j with
  | nil => cases inside
  | cons b bytes ih =>
    have bound : bytes.length + 1 ≤ 4096 := fits
    cases j with
    | zero =>
      -- The bytes behind the first one do not come around to it.
      have beyond : ∀ k < bytes.length, BitVec.ofNat 12 start ≠
          BitVec.ofNat 12 (start + 1 + k) := by
        intro k behind same
        have places := congrArg BitVec.toNat same
        simp only [BitVec.toNat_ofNat] at places
        omega
      exact (byteAt_writeFrom_of_forall_ne beyond).trans (byteAt_setByte _ b)
    | succ j =>
      have behind : j < bytes.length := Nat.lt_of_succ_lt_succ inside
      have rest : ((m.setByte (BitVec.ofNat 12 start) b).writeFrom (start + 1) bytes).byteAt
          (BitVec.ofNat 12 (start + 1 + j)) = bytes[j] := ih (Nat.le_of_succ_le fits) behind
      rw [Nat.add_assoc, Nat.add_comm 1 j] at rest
      exact rest

/-- Bytes that are put into registers one after the other are found there, if there are registers
for all of them. -/
lemma v_setRegisters {bytes : List Byte} {first j : Nat}
    (fits : bytes.length ≤ Layout.registerCount) (inside : j < bytes.length) :
    (m.setRegisters first bytes).v (BitVec.ofNat 4 (first + j)) = bytes[j] := by
  induction bytes generalizing m first j with
  | nil => cases inside
  | cons b bytes ih =>
    have bound : bytes.length + 1 ≤ 16 := fits
    cases j with
    | zero =>
      have beyond : ∀ k < bytes.length, BitVec.ofNat 4 first ≠ BitVec.ofNat 4 (first + 1 + k) := by
        intro k behind same
        have places := congrArg BitVec.toNat same
        simp only [BitVec.toNat_ofNat] at places
        omega
      exact (v_setRegisters_of_forall_ne beyond).trans (v_setV _ b)
    | succ j =>
      have behind : j < bytes.length := Nat.lt_of_succ_lt_succ inside
      have rest : ((m.setV (BitVec.ofNat 4 first) b).setRegisters (first + 1) bytes).v
          (BitVec.ofNat 4 (first + 1 + j)) =
          bytes[j] := ih (Nat.le_of_succ_le fits) behind
      rw [Nat.add_assoc, Nat.add_comm 1 j] at rest
      exact rest

/-- An instruction changes memory at its own addresses only. -/
lemma getElem_nextMemory (m : Machine) {a : Address} (other : ¬ m.stores i a) :
    (m.nextMemory i)[a.toFin] = m.byteAt a := by
  obtain ⟨op, opcode⟩ := i
  cases op with
  | storeDecimal =>
    apply byteAt_writeFrom_of_forall_ne
    intro j inside same
    exact other ⟨j, inside, same⟩
  | store =>
    apply byteAt_writeFrom_of_forall_ne
    intro j inside same
    rw [registersTo, List.length_map, List.length_range] at inside
    exact other ⟨j, Nat.le_of_lt_succ inside, same⟩
  | _ => rfl

/-- An instruction changes its own registers only. -/
lemma getElem_nextRegisters (m : Machine) {r : Nibble} (other : ¬ i.writes r) :
    (m.nextRegisters i)[r.toFin] = m.v r := by
  obtain ⟨op, opcode⟩ := i
  cases op with
  | loadByte | addByte | copy | or | and | xor | random | readDelay | draw =>
    exact v_setV_of_ne _ other
  | add | sub | shr | subn | shl =>
    -- The flag is written after the result, so it is looked past first.
    obtain ⟨notResult, notFlag⟩ := not_or.1 other
    exact (v_setV_of_ne _ notFlag).trans (v_setV_of_ne _ notResult)
  | waitKey =>
    rw [nextRegisters]
    cases m.lowestDown? with
    | none => rfl
    | some k => exact v_setV_of_ne _ other
  | load =>
    apply v_setRegisters_of_forall_ne
    intro j inside same
    rw [readSpan, readFrom, List.length_map, List.length_range] at inside
    apply other
    show r.toNat ≤ (Instruction.x ⟨.load, opcode⟩).toNat
    rw [same, BitVec.toNat_ofNat, Nat.zero_add]
    exact Nat.le_trans (Nat.mod_le j _) (Nat.le_of_lt_succ inside)
  | _ => rfl

/-! ## The next instruction -/

/-- No key is down if there is none with a lowest number. -/
lemma lowestDown?_eq_none_iff : m.lowestDown? = none ↔ ∀ k, m.isDown k = false := by
  rw [lowestDown?, List.find?_eq_none]
  constructor
  · intro up k
    have listed : k ∈ (List.range Layout.keyCount).map (BitVec.ofNat 4) :=
      List.mem_map.2 ⟨k.toNat, List.mem_range.2 k.isLt, BitVec.ofNat_toNat _ _⟩
    exact Bool.eq_false_iff.2 (up k listed)
  · intro up k _
    exact Bool.eq_false_iff.1 (up k)

/-- The program goes on by the rules. -/
lemma goesOn_successor (returns : i.op = .ret → m.stack ≠ []) : m.GoesOn i (m.successor i) := by
  obtain ⟨op, opcode⟩ := i
  -- All that neither jump nor wait go on at one of the next two instructions.
  have regular (plain : op ≠ .jp ∧ op ≠ .call ∧ op ≠ .jpOffset ∧ op ≠ .ret)
      (noWait : op ≠ .waitKey) :
      m.GoesOn ⟨op, opcode⟩ (m.pc + if m.skips ⟨op, opcode⟩ then 4 else 2).wrap := by
    cases skips : m.skips ⟨op, opcode⟩ with
    | true => exact .skip skips
    | false => exact .next plain (fun wait => absurd wait noWait) skips
  cases op with
  | jp => exact .jump (.inl rfl)
  | call => exact .jump (.inr rfl)
  | jpOffset => exact .jumpOffset rfl
  | ret =>
    rw [successor]
    cases stack : m.stack with
    | nil => exact absurd stack (returns rfl)
    | cons caller callers => exact .ret rfl stack
  | waitKey =>
    rw [successor]
    cases lowest : m.lowestDown? with
    | none => exact .stall rfl (lowestDown?_eq_none_iff.1 lowest)
    | some k => exact .next ⟨nofun, nofun, nofun, nofun⟩ (fun _ => ⟨k, List.find?_some lowest⟩) rfl
  | _ => exact regular ⟨nofun, nofun, nofun, nofun⟩ nofun

/-! ## The step -/

/-- An instruction that has its effect and is counted keeps to its frame. -/
lemma frame_finishStep_effect (m : Machine) (i : Instruction) :
    m.Frame i (m.effect i).finishStep := by
  rw [finishStep_eq, effect_eq]
  constructor
  case memory =>
    intro a changed
    by_contra other
    exact changed (getElem_nextMemory m other)
  case registers =>
    intro r changed
    by_contra other
    exact changed (getElem_nextRegisters m other)
  case screen =>
    intro changed
    simp only [nextScreen] at changed
    split at changed
    · next cls => exact .inl cls
    · next draw => exact .inr draw
    · exact absurd rfl changed
  case index =>
    intro changed
    simp only [nextIndex] at changed
    split at changed
    · next load => exact .inl load
    · next add => exact .inr (.inl add)
    · next glyph => exact .inr (.inr glyph)
    · exact absurd rfl changed
  case calls =>
    intro changed
    simp only [nextCalls] at changed
    split at changed
    · next ret => exact .inr ret
    · next call => exact .inl call
    · exact absurd rfl changed
  case keys =>
    intro changed
    simp only [nextKeys] at changed
    split at changed
    · next skip => exact .inl skip
    · next wait => exact .inr wait
    · exact absurd rfl changed
  case redraw =>
    show (if i.op = .cls ∨ i.op = .draw then true else m.redraw) = true ↔ _
    split
    · next requested => exact iff_of_true rfl (.inr requested)
    · next quiet => exact (or_iff_left quiet).symm
  case unknownOpcodes =>
    show (if i.op = .unknown then m.unknownOpcodes + 1 else m.unknownOpcodes) = _
    split
    · rfl
    · rfl
  case random =>
    show (if i.op = .random then m.random.advance else m.random).itemAt = _ ∧ _
    split
    · exact ⟨rfl, rfl⟩
    · exact ⟨rfl, rfl⟩
  case cycles => rfl

/-- Logging does not matter to a frame. -/
lemma Frame.of_note {e : LogEntry} (frame : (m.note e).Frame i m') : m.Frame i m' := by
  rw [note_eq] at frame
  exact ⟨frame.memory, frame.screen, frame.registers, frame.index, frame.calls, frame.keys,
    frame.redraw, frame.unknownOpcodes, frame.random, frame.cycles⟩

/-- Logging does not matter to where the program goes on. -/
lemma GoesOn.of_note {e : LogEntry} {w : Word} (rule : (m.note e).GoesOn i w) : m.GoesOn i w := by
  rw [note_eq] at rule
  cases rule with
  | jump op => exact .jump op
  | jumpOffset op => exact .jumpOffset op
  | ret op stack => exact .ret op stack
  | stall op up => exact .stall op up
  | skip skips => exact .skip skips
  | next plain down skips => exact .next plain down skips

/-- A step that is done has fetched an instruction that was not refused. -/
lemma exists_fetch_of_done (done : m.step.2 = none) :
    ∃ i, m.fetch = .ok i ∧ m.fault? i = none ∧
    m.step.1 = ((m.note (.trace m.pc i)).effect i).finishStep := by
  have rule := m.stepsTo_step
  generalize m.step = result at rule done ⊢
  cases rule with
  | noFetch _ => cases done
  | refused _ _ => cases done
  | @done i fetched accepted => exact ⟨i, fetched, accepted, rfl⟩

/-- A step that is done keeps to the frame of an instruction. -/
lemma exists_frame_of_done (done : m.step.2 = none) : ∃ i, m.Frame i m.step.1 := by
  obtain ⟨i, _, _, result⟩ := exists_fetch_of_done done
  rw [result]
  exact ⟨i, (frame_finishStep_effect _ i).of_note⟩

/-- A return that is not refused finds a caller on the stack. -/
lemma stack_ne_nil_of_ret (accepted : m.fault? i = none) (ret : i.op = .ret) : m.stack ≠ [] := by
  intro empty
  have refused : m.fault? i = some (.returnAt m.pc) := fault?_eq_some_iff.2 (.inl ⟨ret, empty, rfl⟩)
  rw [accepted] at refused
  cases refused

/-- The frame of a step. Whatever the state of the machine, a step that is done changes nothing
beyond the frame of the instruction that was fetched, and goes on where the rules say. -/
theorem step_frame (done : m.step.2 = none) :
    ∃ i, m.fetch = .ok i ∧ m.Frame i m.step.1 ∧ m.GoesOn i m.step.1.pc := by
  obtain ⟨i, fetched, accepted, result⟩ := exists_fetch_of_done done
  have frame := frame_finishStep_effect (m.note (.trace m.pc i)) i
  have goesOn : (m.note (.trace m.pc i)).GoesOn i
      ((m.note (.trace m.pc i)).effect i).finishStep.pc := by
    rw [← fault?_note (.trace m.pc i)] at accepted
    rw [finishStep_eq, effect_eq]
    exact goesOn_successor (stack_ne_nil_of_ret accepted)
  rw [result]
  exact ⟨i, fetched, frame.of_note, goesOn.of_note⟩

/-- A machine that wraps and stores three registers from the last address but one on changes the
byte at address 0, which is in the frame of the instruction. -/
theorem store_around_end :
    let m : Machine := ((fresh ⟨.bit, false, true⟩ false (.cycle 0 [])).performAll
      [.load (.bytes [0xAF, 0xFE, 0x62, 0x07, 0xF2, 0x55]), .step, .step]).1
    m.step.2 = none ∧ m.step.1.byteAt 0 ≠ m.byteAt 0 ∧
      ∃ i, m.fetch = .ok i ∧ m.Frame i m.step.1 ∧ m.GoesOn i m.step.1.pc ∧ m.stores i 0 := by
  intro m
  have done : m.step.2 = none := Option.isNone_iff_eq_none.1 (by decide +kernel)
  have changed : m.step.1.byteAt 0 ≠ m.byteAt 0 := by decide +kernel
  obtain ⟨i, fetched, frame, goesOn⟩ := step_frame done
  exact ⟨done, changed, i, fetched, frame, goesOn, frame.memory 0 changed⟩

end Machine

end Chip8
