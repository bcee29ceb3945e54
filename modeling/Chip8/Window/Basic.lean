import Chip8.Pacer
import Chip8.Source
import Chip8.Window.Call

/-!
# Windows

A machine in a window: paced by the clock of the host, shown as an image with two labels, and heard
as one tone at a time. Opening a window makes requests one after the other; if one cannot be made,
those before it have been.
-/

namespace Chip8

/-- The state of a window. -/
structure Window where
  pacer : Pacer
  width : Int
  height : Int
  /-- Whether the window has been closed. -/
  exited : Bool
  /-- How often the window was drawn since the labels were brought up to date. -/
  draws : Nat
  /-- The steps the machine had made when the labels were brought up to date. -/
  cyclesSeen : Nat
  fpsText : String
  cpsText : String
  /-- What the clock does for the window, in the order in which it was asked, and how often. -/
  schedule : List (Task × Double)
  /-- Whether a tone is playing. -/
  soundPlaying : Bool
  /-- Players made so far. -/
  players : Nat
  /-- Where random changes of pitch come from. -/
  pitches : Source Int
  /-- The requests made, the latest first. -/
  calls : List Call

/-- What can be chosen about a window. -/
structure WindowSettings where
  scale : Int := Layout.defaultScale
  cpuHz : Quantity := .whole Layout.defaultCpuHz
  timerHz : Quantity := .whole Layout.defaultTimerHz
  caption : String := "CHIP-8 Emulator"
deriving DecidableEq, Repr

/-- Why a window could not be opened, and the requests made until then, in order. -/
structure OpenFailure where
  error : HostError
  calls : List Call

namespace Window

/-- The machine in the window. -/
def machine (w : Window) : Machine := w.pacer.machine

/-- The window with another machine in it. -/
def withMachine (w : Window) (m : Machine) : Window :=
  { w with pacer := { w.pacer with machine := m } }

/-- The window after requests, made in this order. -/
def ask (w : Window) (calls : List Call) : Window := { w with calls := calls.reverse ++ w.calls }

/-- The label of draws per second, before the first measurement. -/
def initialFps : String := "FPS: 0"

/-- The label of steps per second, before the first measurement. -/
def initialCps : String := "Cycles/s: 0"

/-- A label whose middle is so many pixels below the upper edge. -/
def labelBelow (height : Int) (text : String) (below : Nat) : Label :=
  ⟨text, 12, 5, height - below, .white⟩

/-- One second. -/
def oneSecond : Double := .nearest false 1

/-- The seconds between ticks at a rate. -/
def interval (rate : Quantity) : Except ArithmeticError Double := do
  let r ← rate.toDouble
  if r.isZero then .error .realDivisionByZero else .ok (oneSecond.div r)

/-- The window with a task that the clock does at a rate. -/
def addTask (w : Window) (task : Task) (rate : Quantity) : Except OpenFailure Window :=
  match interval rate with
  | .error e => .error ⟨.arithmetic e, w.calls.reverse⟩
  | .ok seconds =>
    .ok ({ w with schedule := w.schedule ++ [(task, seconds)] }.ask [.schedule task seconds])

/-- A window around a machine, before anything but the labels has been scheduled. -/
def base (pacer : Pacer) (width height : Int) (pitches : Source Int) : Window where
  pacer := pacer
  width := width
  height := height
  exited := false
  draws := 0
  cyclesSeen := pacer.machine.cycles
  fpsText := initialFps
  cpsText := initialCps
  schedule := [(.updateBench, oneSecond)]
  soundPlaying := false
  players := 0
  pitches := pitches
  calls := []

/-- A window opened on a machine. The clock ticks the timers only of a machine that does not do it
itself. -/
def start (machine : Machine) (settings : WindowSettings) (pitches : Source Int) :
    Except OpenFailure Window := do
  let width := Layout.width * settings.scale
  let height := Layout.height * settings.scale
  let opening := Call.openWindow width height settings.caption
  let pacer ← (Pacer.start machine settings.cpuHz settings.scale).mapError
    (OpenFailure.mk · [opening])
  let picture ← pacer.frame.mapError fun e => OpenFailure.mk (.picture e) [opening]
  let window := (base pacer width height pitches).ask
    [opening, .createImage width height picture, .createLabel (labelBelow height initialFps 15),
      .createLabel (labelBelow height initialCps 30), .schedule .updateBench oneSecond]
  let window ← window.addTask .cpuTick settings.cpuHz
  if machine.options.timersPerStep then return window
  else window.addTask .timerTick settings.timerHz

end Window

end Chip8
