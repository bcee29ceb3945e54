import Chip8.Pacer
import Chip8.Proofs.Machine.Failure

/-!
# One tick

`TicksTo` lists what a tick of the clock can come to, as rules, in terms of single steps: nothing
after a fault, an error of arithmetic before the first step, a step that fails, or all the steps of
the tick, with a picture if a redraw was asked for. The function `tick` follows the rules
(`ticksTo_tick`).
-/

namespace Chip8

namespace Machine

variable {m : Machine}

/-- The machine after so many steps. -/
def after (m : Machine) : Nat → Machine
  | 0 => m
  | count + 1 => m.step.1.after count

/-- Whether so many steps are done, one after the other. -/
def Completes (m : Machine) (count : Nat) : Prop := ∀ j < count, (m.after j).step.2 = none

/-- A step that is done and the steps after it. -/
lemma Completes.succ {count : Nat} (done : m.step.2 = none) (rest : m.step.1.Completes count) :
    m.Completes (count + 1) := by
  intro j before
  cases j with
  | zero => exact done
  | succ j => exact rest j (Nat.lt_of_succ_lt_succ before)

/-- After a step that is done the others follow. -/
lemma steps_of_done (done : m.step.2 = none) (count : Nat) :
    m.steps (count + 1) = m.step.1.steps count := by
  rw [steps]
  generalize m.step = result at done
  obtain ⟨m', fault⟩ := result
  cases done
  rfl

/-- After a step that fails none follows. -/
lemma steps_of_fails {f : Fault} (fails : m.step.2 = some f) (count : Nat) :
    m.steps (count + 1) = (m.step.1, some f) := by
  rw [steps]
  generalize m.step = result at fails
  obtain ⟨m', fault⟩ := result
  cases fails
  rfl

/-- What a run of steps comes to: all of them are done, or one fails and those before it are done. A
step that fails touches the log. -/
inductive RunsTo (m : Machine) (count : Nat) : Machine × Option Fault → Prop where
  | completed :
    m.Completes count →
    m.RunsTo count (m.after count, none)
  | failed {k f log} :
    k < count →
    m.Completes k →
    (m.after k).step.2 = some f →
    m.RunsTo count ({ m.after k with log := log }, some f)

/-- A run of steps is done to its end, or to the first step that fails. -/
lemma runsTo_steps (m : Machine) (count : Nat) : m.RunsTo count (m.steps count) := by
  induction count generalizing m with
  | zero => exact .completed nofun
  | succ count ih =>
    cases first : m.step.2 with
    | some f =>
      obtain ⟨log, result⟩ := step_of_fails first
      rw [steps_of_fails first, result]
      exact .failed (k := 0) (Nat.succ_pos _) nofun first
    | none =>
      have rule := ih m.step.1
      rw [steps_of_done first]
      generalize m.step.1.steps count = result at rule
      -- Of the steps after the first, all are done or the k-th fails, which is the k + 1-st of all.
      cases rule with
      | completed done => exact .completed (.succ first done)
      | @failed k _ _ before done fails =>
        exact .failed (k := k + 1) (Nat.succ_lt_succ before) (.succ first done) fails

end Machine

namespace Pacer

variable {p q : Pacer} {elapsed : Quantity}

/-- What a tick comes to: the pacer afterwards and the answer to the host. -/
inductive TicksTo (p : Pacer) (elapsed : Quantity) : Pacer × Except HostError Tick → Prop where
  /-- After a fault nothing happens any more. -/
  | halted :
    p.halted = true →
    p.TicksTo elapsed (p, .ok .halted)
  /-- The time gives no number of steps. -/
  | uncounted {e} :
    p.halted = false →
    (∀ n, p.stepsFor elapsed ≠ .ok (.whole n)) →
    p.TicksTo elapsed (p, .error e)
  /-- A step fails after those before it are done. -/
  | failed {n : Int} {k f log} :
    p.halted = false →
    p.stepsFor elapsed = .ok (.whole n) →
    k < n.toNat →
    p.machine.Completes k →
    (p.machine.after k).step.2 = some f →
    p.TicksTo elapsed
      ({ p with machine := { p.machine.after k with log := log } }.stop f, .ok (.failed f))
  /-- All steps are done, and no redraw is asked for. -/
  | unchanged {n : Int} :
    p.halted = false →
    p.stepsFor elapsed = .ok (.whole n) →
    p.machine.Completes n.toNat →
    (p.machine.after n.toNat).redraw = false →
    p.TicksTo elapsed ({ p with machine := p.machine.after n.toNat }, .ok .unchanged)
  /-- All steps are done, and the redraw that is asked for is answered with the picture of the
  screen. -/
  | shown {n : Int} :
    p.halted = false →
    p.stepsFor elapsed = .ok (.whole n) →
    p.machine.Completes n.toNat →
    (p.machine.after n.toNat).redraw = true →
    p.TicksTo elapsed
      ({ p with machine := (p.machine.after n.toNat).clearRedraw },
        ((Picture.render (p.machine.after n.toNat).screen.grid p.scale).map Tick.frame).mapError
          .picture)

/-- After a fault a tick does nothing. -/
lemma tick_of_halted (stopped : p.halted = true) (elapsed : Quantity) :
    p.tick elapsed = (p, .ok .halted) := by
  rw [tick, if_pos stopped]

/-- A step that fails stops the pacer. -/
lemma tick_of_fails {n : Int} {m : Machine} {f : Fault} (running : p.halted = false)
    (counted : p.stepsFor elapsed = .ok (.whole n)) (run : p.machine.steps n.toNat = (m, some f)) :
    p.tick elapsed = ({ p with machine := m }.stop f, .ok (.failed f)) := by
  rw [tick, if_neg (Bool.eq_false_iff.1 running)]
  simp only [counted, run]

/-- Steps that are all done are followed by the picture, if there is to be one. -/
lemma tick_of_completes {n : Int} {m : Machine} (running : p.halted = false)
    (counted : p.stepsFor elapsed = .ok (.whole n)) (run : p.machine.steps n.toNat = (m, none)) :
    p.tick elapsed = { p with machine := m }.refresh := by
  rw [tick, if_neg (Bool.eq_false_iff.1 running)]
  simp only [counted, run]

/-- A pacer has halted exactly if it has a fault. -/
lemma halted_iff (p : Pacer) : p.halted = true ↔ ∃ f, p.fault = some f := by
  rw [p.halted_eq]
  exact Option.isSome_iff_exists

/-- A pacer that has not halted has no fault. -/
lemma fault_of_running (running : p.halted = false) : p.fault = none := by
  rw [p.halted_eq] at running
  exact Option.not_isSome_iff_eq_none.1 (Bool.eq_false_iff.1 running)

/-- A tick follows the rules. -/
lemma ticksTo_tick (p : Pacer) (elapsed : Quantity) : p.TicksTo elapsed (p.tick elapsed) := by
  cases running : p.halted with
  | true =>
    rw [tick_of_halted running]
    exact .halted running
  | false =>
    cases counted : p.stepsFor elapsed with
    | error e =>
      rw [tick, if_neg (Bool.eq_false_iff.1 running), counted]
      exact .uncounted running (by rw [counted]; nofun)
    | ok steps =>
      cases steps with
      | real d =>
        rw [tick, if_neg (Bool.eq_false_iff.1 running), counted]
        exact .uncounted running (by rw [counted]; nofun)
      | whole n =>
        have rule := p.machine.runsTo_steps n.toNat
        generalize run : p.machine.steps n.toNat = result at rule
        cases rule with
        | failed before done fails =>
          rw [tick_of_fails running counted run]
          exact .failed running counted before done fails
        | completed done =>
          rw [tick_of_completes running counted run, refresh]
          split
          · next asked => exact .shown running counted done asked
          · next quiet => exact .unchanged running counted done (Bool.eq_false_iff.2 quiet)

/-- A fault is kept, and a new one is that of the step that failed. -/
lemma fault_of_tick {result : Except HostError Tick} {f : Fault}
    (ticked : p.tick elapsed = (q, result)) :
    q.fault = some f ↔ p.fault = some f ∨ result = .ok (.failed f) := by
  have rule := p.ticksTo_tick elapsed
  rw [ticked] at rule
  cases rule with
  | halted => simp
  | uncounted => simp
  | failed running => simp [stop, fault_of_running running]
  | unchanged => simp
  | @shown n running =>
    have answer :
        ((Picture.render (p.machine.after n.toNat).screen.grid p.scale).map Tick.frame).mapError
        HostError.picture ≠ .ok (.failed f) := by
      cases Picture.render (p.machine.after n.toNat).screen.grid p.scale with
      | error e => nofun
      | ok picture => nofun
    simp [answer]

end Pacer

end Chip8
