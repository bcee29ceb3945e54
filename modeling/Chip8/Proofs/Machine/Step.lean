import Chip8.Machine.Step
import Chip8.Proofs.Machine.Effect

/-!
# One step

`StepsTo` lists what a step can come to, as rules: it stops at the fetch, it stops at an instruction
that is refused, or it is done. The function `step` follows the rules (`stepsTo_step`), so a
statement about a step is proved by cases on a rule. What comes after an instruction is
`finishStep_eq`.
-/

namespace Chip8.Machine

variable {m : Machine}

/-- What a step of a machine comes to: the machine afterwards and the fault that stopped it. -/
inductive StepsTo (m : Machine) : Machine × Option Fault → Prop where
  /-- The instruction cannot be fetched. -/
  | noFetch {f} :
    m.fetch = .error f →
    m.StepsTo (m, some f)
  /-- The instruction is fetched and logged, then it is refused. -/
  | refused {i f} :
    m.fetch = .ok i →
    m.fault? i = some f →
    m.StepsTo (m.note (.trace m.pc i), some f)
  /-- The instruction is fetched, logged and executed. -/
  | done {i} :
    m.fetch = .ok i →
    m.fault? i = none →
    m.StepsTo (((m.note (.trace m.pc i)).effect i).finishStep, none)

/-- Logging does not matter to whether an instruction is refused. -/
lemma fault?_note (e : LogEntry) (i : Instruction) : (m.note e).fault? i = m.fault? i := by
  rw [note_eq]
  rfl

/-- After the fetch, a step depends on whether the instruction is refused. -/
lemma step_of_fetch {i : Instruction} (fetched : m.fetch = .ok i) :
    m.step =
      match m.fault? i with
      | some f => (m.note (.trace m.pc i), some f)
      | none => (((m.note (.trace m.pc i)).effect i).finishStep, none) := by
  have same := fault?_note (m := m) (.trace m.pc i) i
  cases refused : m.fault? i with
  | none =>
    rw [refused] at same
    simp only [step, fetched, same]
  | some f =>
    rw [refused] at same
    simp only [step, fetched, same]

/-- A step follows the rules. -/
lemma stepsTo_step (m : Machine) : m.StepsTo m.step := by
  cases fetched : m.fetch with
  | error f =>
    rw [step, fetched]
    exact .noFetch fetched
  | ok i =>
    rw [step_of_fetch fetched]
    cases refused : m.fault? i with
    | none => exact .done fetched refused
    | some f => exact .refused fetched refused

/-- A step fails if there is nothing to fetch or what is fetched is refused. -/
lemma step_fault_iff {f : Fault} :
    m.step.2 = some f ↔ m.fetch = .error f ∨ ∃ i, m.fetch = .ok i ∧ m.fault? i = some f := by
  cases fetched : m.fetch with
  | error g => simp [step, fetched]
  | ok i =>
    rw [step_of_fetch fetched]
    cases refused : m.fault? i with
    | none => simp [refused]
    | some g => simp [refused]

/-- A timer at the end of a step. It counts down if the machine ticks its timers itself. -/
def countDown (m : Machine) (b : Byte) : Byte :=
  if m.options.timersPerStep then if b = 0 then 0 else b - 1 else b

/-- The end of a step touches the timers and the count of steps. -/
lemma finishStep_eq :
    m.finishStep =
      { m with
        delayTimer := m.countDown m.delayTimer
        soundTimer := m.countDown m.soundTimer
        cycles := m.cycles + 1 } := by
  rw [finishStep, countDown, countDown]
  cases m.options.timersPerStep with
  | true => rfl
  | false => rfl

/-- A step does not change the options. -/
lemma options_step (m : Machine) : m.step.1.options = m.options := by
  have rule := m.stepsTo_step
  generalize m.step = result at rule ⊢
  cases rule with
  | noFetch => rfl
  | refused => rw [note_eq]
  | done => rw [finishStep_eq, effect_eq, note_eq]

end Chip8.Machine
