import Chip8.Proofs.Machine.Addressing
import Chip8.Proofs.Machine.History

/-!
# The invariant of a machine

What every machine keeps to, whatever is done to it: the program counter and the return addresses
are addresses, the stack does not outgrow its depth, and no more unknown words than steps are
counted (`WellFormed`). The other bounds are in the types. `WellFormed.perform` is the step of the
induction, `Reachable.wellFormed` and `wellFormed_performAll` are its results for machines and for
histories.
-/

namespace Chip8

/-- Whether an event is a step that was done. -/
def History.isCompletedStep : Operation × Answer → Bool
  | (.step, .done) => true
  | _ => false

/-- The number of steps done since the latest reset. -/
def History.completedSteps (past : History) : Nat := past.sinceReset.countP isCompletedStep

namespace Machine

variable {m : Machine} {i : Instruction}

/-- The bounds that are not in the types. -/
structure WellFormed (m : Machine) : Prop where
  pc_le : m.pc.toNat ≤ Layout.lastAddress
  depth_le : m.stack.length ≤ Layout.stackDepth
  /-- Every cell of the stack holds an address, also one that no call has used or that a return has
  left. -/
  callers_le : ∀ caller ∈ m.calls.cells, caller.toNat ≤ Layout.lastAddress
  unknown_le : m.unknownOpcodes ≤ m.cycles

/-- A new machine is well-formed. -/
lemma wellFormed_fresh (options : Options) (logging : Bool) (random : Source Byte) :
    (fresh options logging random).WellFormed where
  pc_le := show (0x200 : Word).toNat ≤ 0xFFF by decide
  depth_le := Nat.zero_le _
  callers_le := by
    intro caller unused
    rw [(Vector.mem_replicate.1 unused).2]
    exact Nat.zero_le _
  unknown_le := Nat.le_refl _

/-- The program goes on at an address. -/
lemma successor_le (pc_le : m.pc.toNat ≤ Layout.lastAddress) :
    (m.successor i).toNat ≤ Layout.lastAddress := by
  obtain ⟨op, opcode⟩ := i
  cases op with
  | jp | call => exact Address.toNat_toWord_le _
  | ret =>
    simp only [successor]
    cases m.stack with
    | nil => exact pc_le
    | cons caller rest => exact Word.toNat_wrap_le _
  | waitKey =>
    simp only [successor]
    cases m.lowestDown?.isSome with
    | true => exact Word.toNat_wrap_le _
    | false => exact pc_le
  | _ => exact Word.toNat_wrap_le _

/-- Every cell of the stack holds an address after a call as before it. -/
lemma callers_push_le {calls : CallStack} {place : Word}
    (place_le : place.toNat ≤ Layout.lastAddress)
    (callers_le : ∀ caller ∈ calls.cells, caller.toNat ≤ Layout.lastAddress) :
    ∀ caller ∈ (calls.push place).cells, caller.toNat ≤ Layout.lastAddress := by
  intro caller member
  rw [CallStack.push] at member
  split at member
  · next room =>
    have written : caller ∈ calls.cells.set calls.pointer place room := member
    rcases Vector.mem_or_eq_of_mem_set written with old | rfl
    · exact callers_le caller old
    · exact place_le
  · exact callers_le caller member

/-- Return addresses are addresses. -/
lemma callers_nextCalls_le (wf : m.WellFormed) :
    ∀ caller ∈ (m.nextCalls i).cells, caller.toNat ≤ Layout.lastAddress := by
  rw [nextCalls]
  split
  · exact wf.callers_le
  · exact callers_push_le wf.pc_le wf.callers_le
  · exact wf.callers_le

/-- The pointer of a stack does not leave it. -/
lemma length_stack_le (m : Machine) : m.stack.length ≤ Layout.stackDepth := by
  rw [stack, CallStack.length_pending]
  exact Nat.le_of_lt_succ m.calls.pointer.isLt

/-- An instruction that is executed and counted keeps a machine well-formed. -/
lemma WellFormed.finishStep_effect (wf : m.WellFormed) (i : Instruction) :
    (m.effect i).finishStep.WellFormed := by
  rw [finishStep_eq, effect_eq]
  constructor
  · exact successor_le wf.pc_le
  · exact length_stack_le _
  · exact callers_nextCalls_le wf
  · have unknown_le := wf.unknown_le
    simp only
    split <;> omega

/-- Logging keeps a machine well-formed. -/
lemma WellFormed.note (wf : m.WellFormed) (e : LogEntry) : (m.note e).WellFormed := by
  rw [note_eq]
  exact ⟨wf.pc_le, wf.depth_le, wf.callers_le, wf.unknown_le⟩

/-- A step keeps a machine well-formed, also if it fails. -/
lemma WellFormed.step (wf : m.WellFormed) : m.step.1.WellFormed := by
  have rule := m.stepsTo_step
  generalize m.step = result at rule ⊢
  cases rule with
  | noFetch => exact wf
  | refused => exact wf.note _
  | done => exact (wf.note _).finishStep_effect _

/-- Every operation keeps a machine well-formed. -/
lemma WellFormed.perform (wf : m.WellFormed) (operation : Operation) :
    (m.perform operation).1.WellFormed := by
  by_cases step : operation = .step
  · rw [step, perform_step]
    exact wf.step
  · by_cases reset : operation = .reset
    · rw [reset]
      have new := wellFormed_fresh m.options m.logging m.random
      exact ⟨new.pc_le, new.depth_le, new.callers_le, new.unknown_le⟩
    · rw [perform_eq step reset]
      exact ⟨wf.pc_le, wf.depth_le, wf.callers_le, wf.unknown_le⟩

/-- A step that is done is counted, a step that fails is not. -/
lemma cycles_step (m : Machine) :
    m.step.1.cycles = if m.step.2.isNone then m.cycles + 1 else m.cycles := by
  have rule := m.stepsTo_step
  generalize m.step = result at rule ⊢
  cases rule with
  | noFetch => rfl
  | refused =>
    rw [note_eq]
    rfl
  | done =>
    rw [finishStep_eq, effect_eq, note_eq]
    rfl

/-- The count of a machine goes with the count of its history. -/
lemma cycles_perform {past : History} (counted : m.cycles = past.completedSteps)
    (operation : Operation) :
    (m.perform operation).1.cycles =
      History.completedSteps (past ++ [(operation, (m.perform operation).2)]) := by
  rw [History.completedSteps] at counted ⊢
  rw [History.sinceReset_concat]
  by_cases step : operation = .step
  · subst step
    rw [perform_step]
    simp only [cycles_step, counted, Operation.isReset, Bool.false_eq_true, if_false,
      List.countP_append]
    cases m.step.2 with
    | none => rfl
    | some f => rfl
  · by_cases reset : operation = .reset
    · subst reset
      rfl
    · have noStep : History.isCompletedStep (operation, (m.perform operation).2) = false := by
        cases operation with
        | step => exact absurd rfl step
        | _ => rfl
      rw [Operation.isReset_of_ne reset, if_neg Bool.false_ne_true, List.countP_append,
        List.countP_singleton, noStep, perform_eq step reset]
      exact counted

/-- Reachable machines are well-formed. -/
theorem Reachable.wellFormed (reachable : m.Reachable) : m.WellFormed := by
  induction reachable with
  | fresh options logging random => exact wellFormed_fresh options logging random
  | perform operation _ ih => exact ih.perform operation
  | loadFile directory path _ ih =>
    rw [loadFile_eq]
    exact ⟨ih.pc_le, ih.depth_le, ih.callers_le, ih.unknown_le⟩

/-- The invariant over histories. After any operations on a new machine, refused ones included, the
sizes are those of the layout, cells and keys are zero or one, every register and timer holds a
byte, the index register a word and the program counter an address, the stack holds at most sixteen
addresses, and the steps done since the latest reset are counted, unknown words among them. -/
theorem wellFormed_performAll (options : Options) (logging : Bool) (random : Source Byte)
    (operations : List Operation) :
    let m := fresh options logging random
    let m' := (m.performAll operations).1
    m'.memory.toList.length = 4096 ∧ m'.registers.toList.length = 16 ∧
      m'.screen.cells.toList.length = 2048 ∧ (∀ cell ∈ m'.screen.cells.toList, cell.toNat ≤ 1) ∧
      m'.keys.toList.length = 16 ∧ (∀ key ∈ m'.keys.toList, key.toNat ≤ 1) ∧
      m'.index.toNat ≤ 0xFFFF ∧ m'.delayTimer.toNat ≤ 255 ∧ m'.soundTimer.toNat ≤ 255 ∧
      m'.WellFormed ∧ m'.cycles = (m.history operations).completedSteps := by
  intro m m'
  have kept : m'.WellFormed ∧ m'.cycles = (m.history operations).completedSteps := by
    apply history_induction (P := fun past m => m.WellFormed ∧ m.cycles = past.completedSteps)
    · exact ⟨wellFormed_fresh options logging random, rfl⟩
    · intro past m operation ⟨wf, counted⟩
      exact ⟨wf.perform operation, cycles_perform counted operation⟩
  refine ⟨Vector.length_toList, Vector.length_toList, Vector.length_toList,
    fun cell _ => Bool.toNat_le cell, Vector.length_toList, fun key _ => Bool.toNat_le key,
    ?_, ?_, ?_, kept⟩
  · exact Nat.le_of_lt_succ m'.index.isLt
  · exact Nat.le_of_lt_succ m'.delayTimer.isLt
  · exact Nat.le_of_lt_succ m'.soundTimer.isLt

end Machine

end Chip8
