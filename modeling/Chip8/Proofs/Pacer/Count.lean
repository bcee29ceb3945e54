import Chip8.Proofs.Machine.Invariant
import Chip8.Proofs.Pacer.Tick

/-!
# The steps of a tick

How many of the steps of a tick are done is told by the steps themselves (`stepsDone`): they are
done one after the other until one fails. The machine counts as many (`cycles_tick`), also in a tick
that ends with a fault.
-/

namespace Chip8

namespace Machine

/-- How many of so many steps are done. After one that fails there are no more. -/
def stepsDone (m : Machine) : Nat → Nat
  | 0 => 0
  | count + 1 => if m.step.2.isNone then m.step.1.stepsDone count + 1 else 0

/-- A step that is done counts, with those after it. -/
lemma stepsDone_succ_of_done {m : Machine} (done : m.step.2 = none) (count : Nat) :
    m.stepsDone (count + 1) = m.step.1.stepsDone count + 1 := by
  rw [stepsDone, done]
  rfl

/-- After a step that fails none counts. -/
lemma stepsDone_succ_of_fails {m : Machine} {f : Fault} (fails : m.step.2 = some f) (count : Nat) :
    m.stepsDone (count + 1) = 0 := by
  rw [stepsDone, fails]
  rfl

/-- The machine counts the steps that are done. -/
lemma cycles_steps (m : Machine) (count : Nat) :
    (m.steps count).1.cycles = m.cycles + m.stepsDone count := by
  induction count generalizing m with
  | zero => rfl
  | succ count ih =>
    have counted := m.cycles_step
    cases first : m.step.2 with
    | none =>
      rw [first, Option.isNone_none, if_pos rfl] at counted
      rw [steps_of_done first, stepsDone_succ_of_done first, ih, counted]
      omega
    | some f =>
      rw [first] at counted
      rw [steps_of_fails first, stepsDone_succ_of_fails first]
      exact counted

/-- If none fails, all of them are done. -/
lemma stepsDone_of_completes {m : Machine} {count : Nat} (completes : m.Completes count) :
    m.stepsDone count = count := by
  induction count generalizing m with
  | zero => rfl
  | succ count ih =>
    have first : m.step.2 = none := completes 0 (Nat.succ_pos count)
    have rest : m.step.1.Completes count :=
      fun j before => completes (j + 1) (Nat.succ_lt_succ before)
    rw [stepsDone_succ_of_done first, ih rest]

end Machine

namespace Pacer

variable {p : Pacer} {elapsed : Quantity}

/-- How many steps are done in a tick. -/
def stepsDone (p : Pacer) (elapsed : Quantity) : Nat :=
  if p.halted then 0
  else match p.stepsFor elapsed with
    | .ok (.whole steps) => p.machine.stepsDone steps.toNat
    | _ => 0

/-- The machine counts the steps that are done in a tick. -/
lemma cycles_tick (p : Pacer) (elapsed : Quantity) :
    (p.tick elapsed).1.machine.cycles = p.machine.cycles + p.stepsDone elapsed := by
  rw [stepsDone]
  cases running : p.halted with
  | true =>
    rw [tick_of_halted running]
    rfl
  | false =>
    rw [if_neg Bool.false_ne_true]
    cases counted : p.stepsFor elapsed with
    | error e =>
      rw [tick, if_neg (Bool.eq_false_iff.1 running), counted]
      rfl
    | ok steps =>
      cases steps with
      | real d =>
        rw [tick, if_neg (Bool.eq_false_iff.1 running), counted]
        rfl
      | whole n =>
        have cycles := p.machine.cycles_steps n.toNat
        cases run : p.machine.steps n.toNat with
        | mk m fault =>
          rw [run] at cycles
          cases fault with
          | some f =>
            rw [tick_of_fails running counted run]
            exact cycles
          | none =>
            rw [tick_of_completes running counted run, refresh]
            split
            · exact cycles
            · exact cycles

end Pacer

end Chip8
