import Chip8.Keyboard
import Chip8.Number.Decimal
import Chip8.Window.Basic

/-!
# Events

How a window answers the clock, the keyboard, the display and the sound player. A request that the
window makes of itself is answered at once.
-/

namespace Chip8

/-- What can happen to a window. -/
inductive Event where
  /-- The clock calls a task after so many seconds. -/
  | tick (task : Task) (elapsed : Quantity)
  /-- The window is to be drawn. -/
  | draw
  | keyPress (symbol : Int)
  | keyRelease (symbol : Int)
  /-- The window is asked to close. -/
  | close
  /-- A player has come to the end of its tone. -/
  | playerEnded (player : Nat)
deriving DecidableEq, Repr

namespace Window

/-- The window closed: nothing is scheduled any more. -/
def shutDown (w : Window) : Window :=
  let tasks := [Task.cpuTick, .timerTick, .updateBench]
  { w with
    exited := true
    schedule := w.schedule.filter fun (task, _) =>
      task ∉ tasks }.ask (tasks.map Call.unschedule ++ [Call.close])

/-- The window asked to close, which it does at once. -/
def requestClose (w : Window) : Window := (w.ask [.requestClose]).shutDown

/-- The pitch of a tone without a change. -/
def basePitch : Int := 440

/-- The greatest change of pitch, up or down. -/
def pitchVariation : Int := 15

/-- A tone of a fifth of a second. -/
def tone (change : Int) : Tone := ⟨.nearest false (1 / 5), basePitch + change, 44100⟩

/-- The window with a new player that plays a tone. A change of pitch outside the bounds is brought
to the bound. -/
def playTone (w : Window) : Window :=
  let change := max (-pitchVariation) (min pitchVariation w.pitches.peek)
  { w with
    pitches := w.pitches.advance
    players := w.players + 1
    soundPlaying := true }.ask
    [.randomPitch (-pitchVariation) pitchVariation, .queueTone w.players (tone change),
      .play w.players]

/-- The window with a tone if the machine asks for one and none is playing. -/
def updateSound (w : Window) : Window :=
  if w.machine.soundActive && !w.soundPlaying then w.playTone else w

/-- The window after steps, and what is told to the user. A machine that has stopped closes the
window. -/
def cpuTick (w : Window) (elapsed : Quantity) : Window × Except HostError String :=
  if w.exited then (w, .ok "")
  else
    let (pacer, result) := w.pacer.tick elapsed
    let w := { w with pacer }
    match result with
    | .error e => (w, .error e)
    | .ok tick =>
      if pacer.halted then (w.requestClose, .ok tick.report)
      else
        let w := match tick.picture? with
          | some picture => w.ask [.setPicture (w.width * 4) picture]
          | none => w
        (w.updateSound, .ok "")

/-- The window with labels that tell draws and steps per second since the last time. The counts
begin anew only if both rates could be told. -/
def updateBench (w : Window) (elapsed : Quantity) : Window × Except HostError String :=
  match elapsed.under w.draws with
  | .error e => (w, .error (.arithmetic e))
  | .ok fps =>
    let w := { w with fpsText := "FPS: " ++ fps.oneDecimal }
    match elapsed.under (w.machine.cycles - w.cyclesSeen) >>= Double.toInt with
    | .error e => (w, .error (.arithmetic e))
    | .ok cps => ({ w with
        cpsText := "Cycles/s: " ++ toString cps
        draws := 0
        cyclesSeen := w.machine.cycles }, .ok "")

/-- The window with logging turned on or off, and the news of it. -/
def toggleLogging (w : Window) : Window × String :=
  let on := !w.machine.logging
  (w.withMachine { w.machine with logging := on }, "logsOn: " ++
    (if on then "True" else "False") ++ "\n")

/-- The window after a key of the keyboard has gone down. -/
def keyPress (w : Window) (symbol : Int) : Window × String :=
  if symbol = Keyboard.escape then (w.requestClose, "")
  else if symbol = Keyboard.toggleLogging then w.toggleLogging
  else match Keyboard.key? symbol with
    | some k => (w.withMachine (w.machine.setDown k true), "")
    | none => (w, "")

/-- The window after a key of the keyboard has gone up. -/
def keyRelease (w : Window) (symbol : Int) : Window :=
  match Keyboard.key? symbol with
  | some k => w.withMachine (w.machine.setDown k false)
  | none => w

/-- The window after it has been drawn. -/
def draw (w : Window) : Window :=
  { w with draws := w.draws + 1 }.ask [.clear, .drawImage, .drawLabel w.fpsText,
    .drawLabel w.cpsText]

/-- The window after a task of the clock. -/
def runTask (w : Window) (task : Task) (elapsed : Quantity) : Window × Except HostError String :=
  match task with
  | .cpuTick => w.cpuTick elapsed
  | .timerTick => (w.withMachine w.machine.tickTimers, .ok "")
  | .updateBench => w.updateBench elapsed

/-- The window after an event, and what is told to the user. -/
def handle (w : Window) : Event → Window × Except HostError String
  | .tick task elapsed => w.runTask task elapsed
  | .draw => (w.draw, .ok "")
  | .keyPress symbol =>
    let (w, told) := w.keyPress symbol
    (w, .ok told)
  | .keyRelease symbol => (w.keyRelease symbol, .ok "")
  | .close => (w.requestClose, .ok "")
  | .playerEnded player => ({ w with soundPlaying := false }.ask [.deletePlayer player], .ok "")

/-- The window after events in turn. -/
def handleAll (w : Window) (events : List Event) : Window :=
  events.foldl (fun w e => (w.handle e).1) w

/-- Whether the clock still does a task. -/
def isScheduled (w : Window) (task : Task) : Bool := w.schedule.any (·.1 == task)

end Window

end Chip8
