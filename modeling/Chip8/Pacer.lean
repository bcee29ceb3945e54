import Chip8.Machine.Step
import Chip8.Number.Quantity
import Chip8.Picture

/-!
# Pacing

A machine run by the clock of a host. Each tick runs the steps that the elapsed time covers, at
least one and at most a tenth of a second's worth, so that a host that was held up does not cause a
burst. A fault stops the machine for good; it does not reach the clock of the host.
-/

namespace Chip8

/-- A machine that runs at `cpuHz` steps per second and is shown at a scale. -/
structure Pacer where
  machine : Machine
  cpuHz : Quantity
  cpuHz_pos : cpuHz.atMostZero = false
  scale : Int
  /-- Whether a fault has stopped the machine. -/
  halted : Bool
  /-- The fault that stopped the machine. -/
  fault : Option Fault
  halted_eq : halted = fault.isSome

/-- What a host can do wrong with a clock or a display. -/
inductive HostError where
  /-- A rate of steps has to be positive. -/
  | rateNotPositive (rate : Quantity)
  /-- A floating-point number cannot count steps, even if it has no fraction. -/
  | stepsNotWhole
  | arithmetic (e : ArithmeticError)
  | picture (e : PictureError)
deriving DecidableEq, Repr

/-- The text of a host error. -/
def HostError.message : HostError → String
  | rateNotPositive rate => "cpu_hz must be positive, got " ++ rate.text
  | stepsNotWhole => "'float' object cannot be interpreted as an integer"
  | arithmetic e => e.message
  | picture e => e.message

/-- What came of a tick. -/
inductive Tick where
  /-- The machine had stopped before; nothing happened. -/
  | halted
  /-- A step failed, and the machine stopped. -/
  | failed (f : Fault)
  /-- The screen did not change. -/
  | unchanged
  /-- The screen may have changed; this is its picture. -/
  | frame (picture : Picture)

namespace Tick

/-- The new picture, if there is one. -/
def picture? : Tick → Option Picture
  | frame picture => some picture
  | _ => none

/-- What the user is told. -/
def report : Tick → String
  | failed f => "Emulation error: " ++ f.message ++ "\n"
  | _ => ""

end Tick

namespace Pacer

/-- A machine with a rate, if the rate is positive. -/
def start (machine : Machine) (cpuHz : Quantity) (scale : Int) : Except HostError Pacer :=
  if nonpos : cpuHz.atMostZero then .error (.rateNotPositive cpuHz)
  else .ok ⟨machine, cpuHz, Bool.eq_false_iff.2 nonpos, scale, false, none, rfl⟩

/-- The most steps of one tick: a tenth of a second's worth, and at least one. For a floating-point
rate the tenth is a floating-point number as well. Without its fraction, the tenth of an infinite
rate is no number, which is not more than one. -/
def maxSteps (p : Pacer) : Quantity :=
  match p.cpuHz with
  | .whole rate => .whole (max 1 (rate / 10))
  | .real (.infinite _) | .real .nan => .whole 1
  | .real rate => if 1 < rate.wholeTenth.toRat then .real rate.wholeTenth else .whole 1

/-- A number of steps brought between one and the most steps of a tick. -/
def clamp (p : Pacer) (steps : Int) : Quantity :=
  match p.maxSteps with
  | .whole most => .whole (min most (max 1 steps))
  | .real most => if (max 1 steps : Int) < most.toRat then .whole (max 1 steps) else .real most

/-- The steps of a tick after so many seconds. -/
def stepsFor (p : Pacer) (elapsed : Quantity) : Except ArithmeticError Quantity :=
  (elapsed.roundedTimes p.cpuHz).map p.clamp

/-- The picture of the screen as it is. -/
def frame (p : Pacer) : Except PictureError Picture :=
  Picture.render p.machine.screen.grid p.scale

/-- The pacer stopped for good by a fault. -/
def stop (p : Pacer) (f : Fault) : Pacer :=
  { p with halted := true, fault := some f, halted_eq := rfl }

/-- The picture of a screen that may have changed since the host last asked. -/
def refresh (p : Pacer) : Pacer × Except HostError Tick :=
  if p.machine.redraw then
    ({ p with machine := p.machine.clearRedraw }, (p.frame.map Tick.frame).mapError .picture)
  else (p, .ok .unchanged)

/-- One tick of the clock of the host. -/
def tick (p : Pacer) (elapsed : Quantity) : Pacer × Except HostError Tick :=
  if p.halted then (p, .ok .halted)
  else match p.stepsFor elapsed with
    | .error e => (p, .error (.arithmetic e))
    | .ok (.real _) => (p, .error .stepsNotWhole)
    | .ok (.whole steps) =>
      match p.machine.steps steps.toNat with
      | (machine, some f) => ({ p with machine }.stop f, .ok (.failed f))
      | (machine, none) => { p with machine }.refresh

end Pacer

end Chip8
