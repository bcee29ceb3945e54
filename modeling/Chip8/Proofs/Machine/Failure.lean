import Chip8.Proofs.Instruction.Table
import Chip8.Proofs.Machine.Access
import Chip8.Proofs.Machine.Invariant

/-!
# Failing steps

`Refused` lists the documented causes for which a step fails, each with its fault. A reachable
machine fails for these and for nothing else, and a step that fails leaves the machine as it was,
however far it got: `step_fails_iff`. So the same step fails again, any number of times
(`performAll_steps_of_fails`).
-/

namespace Chip8.Machine

variable {m : Machine} {f : Fault}

/-- The documented causes of failure of a step, with the faults. -/
inductive Refused (m : Machine) : Fault → Prop where
  /-- The second byte of the instruction lies beyond the last address of a strict machine. -/
  | fetch :
    m.options.strict = true →
    m.pc.toNat = Layout.lastAddress →
    m.Refused (.address 0x1000)
  /-- A return without a call. -/
  | ret {i} :
    m.fetch = .ok i →
    i.opcode = 0x00EE →
    m.stack = [] →
    m.Refused (.returnAt m.pc)
  /-- A call too many. -/
  | call {i} :
    m.fetch = .ok i →
    i.opcode &&& 0xF000 = 0x2000 →
    m.stack.length = Layout.stackDepth →
    m.Refused (.callAt m.pc)
  /-- A sprite that is read from beyond the last address. -/
  | draw {i} :
    m.fetch = .ok i →
    i.opcode &&& 0xF000 = 0xD000 →
    m.options.strict = true →
    0 < i.n.toNat →
    Layout.lastAddress < m.index.toNat + i.n.toNat - 1 →
    m.Refused (.address (m.index.toNat + i.n.toNat - 1))
  /-- Decimal digits that go beyond the last address. -/
  | storeDecimal {i} :
    m.fetch = .ok i →
    i.opcode &&& 0xF0FF = 0xF033 →
    m.options.strict = true →
    Layout.lastAddress < m.index.toNat + 2 →
    m.Refused (.address (m.index.toNat + 2))
  /-- Registers that are stored beyond the last address, or loaded from there. -/
  | transfer {i} :
    m.fetch = .ok i →
    i.opcode &&& 0xF0FF = 0xF055 ∨ i.opcode &&& 0xF0FF = 0xF065 →
    m.options.strict = true →
    Layout.lastAddress < m.index.toNat + i.x.toNat →
    m.Refused (.address (m.index.toNat + i.x.toNat))

/-! ## The causes -/

/-- What is fetched has an operation of the table if its word is accepted by the pattern of the
operation. -/
lemma op_fetched_iff {i : Instruction} (fetched : m.fetch = .ok i) {mask bits : Word} {op : Op}
    (listed : ⟨mask, bits, op⟩ ∈ Pattern.table ∧ op ≠ .sys) :
    i.op = op ↔ i.opcode &&& mask = bits := by
  obtain ⟨_, _, rfl⟩ := fetch_eq_ok_iff.1 fetched
  exact (Instruction.op_decode_iff listed.1 listed.2).trans beq_iff_eq

/-- The words of the operations that may be refused. -/
lemma refusable_words {i : Instruction} (fetched : m.fetch = .ok i) :
    (i.op = .ret ↔ i.opcode = 0x00EE) ∧
    (i.op = .call ↔ i.opcode &&& 0xF000 = 0x2000) ∧
    (i.op = .draw ↔ i.opcode &&& 0xF000 = 0xD000) ∧
    (i.op = .storeDecimal ↔ i.opcode &&& 0xF0FF = 0xF033) ∧
    (i.op = .store ↔ i.opcode &&& 0xF0FF = 0xF055) ∧
    (i.op = .load ↔ i.opcode &&& 0xF0FF = 0xF065) := by
  have whole : i.opcode &&& 0xFFFF = i.opcode := BitVec.and_allOnes
  refine ⟨?_, ?_, ?_, ?_, ?_, ?_⟩
  · rw [← whole]
    exact op_fetched_iff fetched (by decide)
  · exact op_fetched_iff fetched (by decide)
  · exact op_fetched_iff fetched (by decide)
  · exact op_fetched_iff fetched (by decide)
  · exact op_fetched_iff fetched (by decide)
  · exact op_fetched_iff fetched (by decide)

/-- A strict machine refuses a stretch that ends beyond the last address. -/
lemma fault?_of_stretch {i : Instruction} {count : Nat} (length : i.spanLength = count + 1)
    (strict : m.options.strict = true) (beyond : Layout.lastAddress < m.index.toNat + count) :
    m.fault? i = some (.address (m.index.toNat + count)) := by
  rw [fault?_eq_some_iff, spanFault?_eq_some_iff, length]
  exact .inr (.inr ⟨strict, Nat.succ_pos _, beyond, rfl⟩)

/-- Every cause makes the step fail. -/
lemma Refused.step_fails (cause : m.Refused f) : m.step.2 = some f := by
  rw [step_fault_iff]
  -- Each cause names the word; the table turns it into the operation that is refused.
  cases cause with
  | fetch strict last =>
    have high : m.addressFault? m.pc.toNat = none :=
      addressFault?_eq_none_iff.2 (.inr (Nat.le_of_eq last))
    have low : m.addressFault? (m.pc.toNat + 1) = some (.address 0x1000) := by
      rw [addressFault?_eq_some_iff, last]
      exact ⟨strict, by decide, rfl⟩
    exact .inl (fetch_eq_error_iff.2 (.inr ⟨high, low⟩))
  | @ret i fetched word empty =>
    obtain ⟨ret, _⟩ := refusable_words fetched
    exact .inr ⟨i, fetched, fault?_eq_some_iff.2 (.inl ⟨ret.2 word, empty, rfl⟩)⟩
  | @call i fetched word full =>
    obtain ⟨_, call, _⟩ := refusable_words fetched
    exact .inr
      ⟨i, fetched, fault?_eq_some_iff.2 (.inr (.inl ⟨call.2 word, Nat.le_of_eq full.symm, rfl⟩))⟩
  | @draw i fetched word strict pos beyond =>
    obtain ⟨_, _, draw, _⟩ := refusable_words fetched
    have length : i.spanLength = i.n.toNat - 1 + 1 := by
      rw [Instruction.spanLength, draw.2 word]
      exact (Nat.sub_add_cancel pos).symm
    rw [Nat.add_sub_assoc pos] at beyond ⊢
    exact .inr ⟨i, fetched, fault?_of_stretch length strict beyond⟩
  | @storeDecimal i fetched word strict beyond =>
    obtain ⟨_, _, _, storeDecimal, _⟩ := refusable_words fetched
    have length : i.spanLength = 2 + 1 := by rw [Instruction.spanLength, storeDecimal.2 word]
    exact .inr ⟨i, fetched, fault?_of_stretch length strict beyond⟩
  | @transfer i fetched word strict beyond =>
    obtain ⟨_, _, _, _, store, load⟩ := refusable_words fetched
    have length : i.spanLength = i.x.toNat + 1 := by
      rcases word with word | word
      · rw [Instruction.spanLength, store.2 word]
      · rw [Instruction.spanLength, load.2 word]
    exact .inr ⟨i, fetched, fault?_of_stretch length strict beyond⟩

/-- A stretch that is refused is that of a sprite, of decimal digits or of registers. -/
lemma Refused.of_stretch {i : Instruction} (fetched : m.fetch = .ok i)
    (refused : m.spanFault? i.spanLength = some f) :
    m.Refused f := by
  obtain ⟨strict, pos, beyond, rfl⟩ := spanFault?_eq_some_iff.1 refused
  obtain ⟨_, _, draw, storeDecimal, store, load⟩ := refusable_words fetched
  cases op : i.op with
  | draw =>
    rw [Instruction.spanLength, op] at pos beyond ⊢
    exact .draw fetched (draw.1 op) strict pos beyond
  | storeDecimal =>
    rw [Instruction.spanLength, op] at beyond ⊢
    exact .storeDecimal fetched (storeDecimal.1 op) strict beyond
  | store =>
    rw [Instruction.spanLength, op] at beyond ⊢
    exact .transfer fetched (.inl (store.1 op)) strict beyond
  | load =>
    rw [Instruction.spanLength, op] at beyond ⊢
    exact .transfer fetched (.inr (load.1 op)) strict beyond
  | _ =>
    rw [Instruction.spanLength, op] at pos
    cases pos

/-- A well-formed machine fails for no other cause. -/
lemma Refused.of_step_fails (wf : m.WellFormed) (fails : m.step.2 = some f) : m.Refused f := by
  rcases step_fault_iff.1 fails with noFetch | ⟨i, fetched, refused⟩
  · rcases fetch_eq_error_iff.1 noFetch with high | ⟨_, low⟩
    · obtain ⟨_, beyond, _⟩ := addressFault?_eq_some_iff.1 high
      exact absurd wf.pc_le (Nat.not_le_of_lt beyond)
    · obtain ⟨strict, beyond, rfl⟩ := addressFault?_eq_some_iff.1 low
      have last : m.pc.toNat = Layout.lastAddress :=
        Nat.le_antisymm wf.pc_le (Nat.le_of_lt_succ beyond)
      rw [last]
      exact .fetch strict last
  · obtain ⟨ret, call, _⟩ := refusable_words fetched
    rcases fault?_eq_some_iff.1 refused with ⟨op, empty, rfl⟩ | ⟨op, full, rfl⟩ | stretch
    · exact .ret fetched (ret.1 op) empty
    · exact .call fetched (call.1 op) (Nat.le_antisymm wf.depth_le full)
    · exact .of_stretch fetched stretch

/-! ## What a failing step leaves -/

/-- A step that fails touches the log. -/
lemma step_of_fails (fails : m.step.2 = some f) :
    ∃ log, m.step = ({ m with log := log }, some f) := by
  have rule := m.stepsTo_step
  generalize m.step = result at rule fails ⊢
  cases rule with
  | noFetch _ =>
    cases fails
    exact ⟨m.log, rfl⟩
  | @refused i _ _ _ =>
    cases fails
    exact ⟨m.logged (.trace m.pc i), by rw [note_eq]⟩
  | done _ _ => cases fails

/-- Whether a step fails does not depend on the log. -/
lemma step_fails_log (log : List LogEntry) :
    { m with log := log }.step.2 = some f ↔ m.step.2 = some f := by
  rw [step_fault_iff, step_fault_iff]
  exact Iff.rfl

/-- A step that fails does so again, any number of times. -/
lemma performAll_steps_of_fails (fails : m.step.2 = some f) (count : Nat) :
    ∃ log, m.performAll (List.replicate count .step) =
      ({ m with log := log }, List.replicate count (.refused (.fault f))) := by
  induction count generalizing m with
  | zero => exact ⟨m.log, rfl⟩
  | succ count ih =>
    -- The step leaves a machine that differs in the log, and that one fails as well.
    obtain ⟨log, stopped⟩ := step_of_fails fails
    obtain ⟨log', rest⟩ := ih ((step_fails_log log).2 fails)
    refine ⟨log', ?_⟩
    rw [List.replicate_succ, performAll, perform_step, stopped]
    simp only [rest]
    rfl

/-- The steps of a reachable machine fail for the documented causes and for no other, and never at
an unknown word. One that fails leaves the machine as it was but for the log, also if it is followed
access by access, and fails again any number of times. -/
theorem step_fails_iff (reachable : m.Reachable) :
    (∀ f, m.step.2 = some f ↔ m.Refused f) ∧
    (∀ i, m.fetch = .ok i → i.op = .unknown → m.step.2 = none) ∧
    ∀ f, m.step.2 = some f →
      (∃ log visited, Access.step ⟨m, []⟩ = .error f ⟨{ m with log := log }, visited⟩) ∧
      ∀ count, ∃ log, m.performAll (List.replicate count .step) =
        ({ m with log := log }, List.replicate count (.refused (.fault f))) := by
  refine ⟨?_, ?_, ?_⟩
  · intro f
    exact ⟨.of_step_fails reachable.wellFormed, Refused.step_fails⟩
  · intro i fetched unknown
    have accepted : m.fault? i = none := by
      rw [fault?, unknown]
      show m.spanFault? i.spanLength = none
      rw [Instruction.spanLength, unknown]
      rfl
    rw [step_of_fetch fetched, accepted]
  · intro f fails
    obtain ⟨log, stopped⟩ := step_of_fails fails
    obtain ⟨visited, run⟩ := Access.run_step m []
    rw [stopped] at run
    exact ⟨⟨log, visited, run⟩, performAll_steps_of_fails fails⟩

/-- A strict machine whose program points the index register near the end of memory and then stores
three registers there fails for the last of their addresses, every time. -/
theorem store_beyond_memory_fails :
    let m : Machine := ((fresh ⟨.bit, true, true⟩ false (.cycle 0 [])).performAll
      [.load (.bytes [0xAF, 0xFE, 0xF2, 0x55]), .step]).1
    m.step.2 = some (.address 0x1000) ∧
    ∀ count, ∃ log, m.performAll (List.replicate count .step) =
      ({ m with log := log }, List.replicate count (.refused (.fault (.address 0x1000)))) := by
  intro m
  have reachable : m.Reachable := (Reachable.fresh _ _ _).performAll _
  have fetched : m.fetch = .ok ⟨.store, 0xF255⟩ := by
    have high : m.addressFault? m.pc.toNat = none :=
      addressFault?_eq_none_iff.2 (.inr (by decide +kernel))
    have low : m.addressFault? (m.pc.toNat + 1) = none :=
      addressFault?_eq_none_iff.2 (.inr (by decide +kernel))
    exact fetch_eq_ok_iff.2 ⟨high, low, by decide +kernel⟩
  have cause : m.Refused (.address (m.index.toNat + 2)) :=
    .transfer fetched (.inl (by decide)) (by decide +kernel) (by decide +kernel)
  have place : m.index.toNat + 2 = 0x1000 := by decide +kernel
  rw [place] at cause
  have fails := ((step_fails_iff reachable).1 _).2 cause
  exact ⟨fails, ((step_fails_iff reachable).2.2 _ fails).2⟩

end Chip8.Machine
