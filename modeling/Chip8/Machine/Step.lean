import Chip8.Machine.Execute

/-!
# Steps

One step fetches the instruction at the program counter, logs it, executes it, ticks the timers if
they belong to the machine, and counts. A step that fails changes nothing but the log.
-/

namespace Chip8.Machine

/-- The end of a step that succeeded. -/
def finishStep (m : Machine) : Machine :=
  let m := if m.options.timersPerStep then m.tickTimers else m
  { m with cycles := m.cycles + 1 }

/-- One step, and the fault that stopped it. -/
def step (m : Machine) : Machine × Option Fault :=
  match m.fetch with
  | .error f => (m, some f)
  | .ok i =>
    let m := m.note (.trace m.pc i)
    match m.fault? i with
    | some f => (m, some f)
    | none => ((m.effect i).finishStep, none)

/-- At most `count` steps, up to the first fault. -/
def steps (m : Machine) : Nat → Machine × Option Fault
  | 0 => (m, none)
  | count + 1 =>
    match m.step with
    | (m, some f) => (m, some f)
    | (m, none) => m.steps count

end Chip8.Machine
