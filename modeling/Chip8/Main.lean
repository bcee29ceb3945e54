import Chip8.CommandLine.Outcome
import Chip8.Window.Event

/-!
# The program

The command line, with a terminal for a window. The screen is shown as blocks of characters with the
two labels below it, a tone rings the bell, and each line of the input is a chord of keys held down
for a moment.
-/

namespace Chip8.Terminal

open CommandLine

/-- The error of the library for an error of the system. -/
def fileError (path : String) : IO.Error → FileError
  | .noFileOrDirectory .. => .notFound path
  | .inappropriateType .. => .isFolder path
  | .permissionDenied _ code details => .other code.toNat details path
  | e => .other 5 (toString e) path

/-- The bytes of the file at a path. -/
def readFile (path : String) : IO (Except FileError (List Byte)) := do
  if path.toList.contains '\x00' then return .error .embeddedNul
  try
    let bytes ← IO.FS.readBinFile path
    return .ok (bytes.toList.map UInt8.toBitVec)
  catch e => return .error (fileError path e)

/-- Bytes that differ from one start of the program to the next. -/
def randomBytes (seed : UInt64) : Source Byte :=
  ⟨fun k => BitVec.ofNat 8 ((mixHash seed (hash k)).toNat / 256), 0⟩

/-- Changes of pitch that differ from one start of the program to the next. -/
def randomPitches (seed : UInt64) : Source Int :=
  ⟨fun k => ((mixHash seed (hash k)).toNat / 256 % (2 * Window.pitchVariation.toNat + 1) : Nat) -
    Window.pitchVariation,
    0⟩

/-- The symbol that a character of the input stands for. -/
def symbolOf (c : Char) : Int := if c = '\x1b' then Keyboard.escape else c.toNat

/-- The screen, two columns of characters for each cell. -/
def picture (s : Screen) : String :=
  "\n".intercalate (s.rows.map fun row =>
    String.join (row.map fun lit => if lit then "██" else "  "))

/-- Nanoseconds as seconds. -/
def seconds (nanos : Nat) : Double := .nearest false (nanos / 1000000000 : Rat)

/-- How long a tone lasts and a key of the input is held, in nanoseconds. -/
def moment : Nat := 200000000

/-- A window on a terminal, with the times of what is still to come. -/
structure Session where
  window : Window
  /-- When each task of the clock was done last. -/
  done : List (Task × Nat)
  /-- Events that come by themselves, each at its time. -/
  pending : List (Nat × Event)

/-- What the terminal does for one request of the window. -/
def serve (w : Window) : Call → IO Unit
  | .openWindow .. => IO.print "\x1b[2J"
  | .drawImage => IO.print ("\x1b[H" ++ picture w.machine.screen ++ "\n")
  | .drawLabel text => IO.println (text ++ "\x1b[K")
  | .play _ => IO.print "\x07"
  | _ => return

/-- Whether a request changes what is shown. -/
def changesView : Call → Bool
  | .setPicture .. | .createImage .. => true
  | _ => false

/-- Serves the requests made since the last time and prints what was logged. -/
def serveAll (s : Session) (now : Nat) : IO Session := do
  for e in s.window.machine.log.reverse do IO.println e.text
  let asked := s.window.calls.reverse
  let window := { s.window.withMachine { s.window.machine with log := [] } with calls := [] }
  for c in asked do serve window c
  let ends := asked.filterMap fun c =>
    match c with
    | .play player => some (now + moment, Event.playerEnded player)
    | _ => none
  let s := { s with window, pending := s.pending ++ ends }
  if asked.any changesView then
    let drawn := (s.window.handle .draw).1
    for c in drawn.calls.reverse do serve drawn c
    return { s with window := { drawn with calls := [] } }
  else return s

/-- The session after an event. -/
def handle (s : Session) (now : Nat) (e : Event) : IO Session := do
  let (window, result) := s.window.handle e
  match result with
  | .ok told => IO.print told
  | .error e => throw (IO.userError e.message)
  serveAll { s with window } now

/-- The session after the tasks and events that are due. -/
def handleDue (s : Session) (now : Nat) : IO Session := do
  let mut s := s
  for (task, interval) in s.window.schedule do
    let last := (s.done.lookup task).getD now
    if interval.toRat ≤ (seconds (now - last)).toRat ∧ s.window.isScheduled task then
      s := { s with done := (task, now) :: s.done.filter (·.1 != task) }
      s ← handle s now (.tick task (.real (seconds (now - last))))
      if task = .updateBench then s ← handle s now .draw
  let due := s.pending.filter (·.1 ≤ now)
  s := { s with pending := s.pending.filter (now < ·.1) }
  for (_, e) in due do s ← handle s now e
  return s

/-- The session after a line of the input. -/
def handleLine (s : Session) (now : Nat) (line : String) : IO Session := do
  let symbols := line.toList.map symbolOf
  let mut s := { s with pending := s.pending ++ symbols.map fun k => (now + moment, .keyRelease k) }
  for k in symbols do s ← handle s now (.keyPress k)
  return s

/-- Runs the session until its window is closed. -/
partial def loop (nextLine : IO (Option String)) (s : Session) : IO Unit := do
  if s.window.exited then return
  IO.sleep 2
  let now ← IO.monoNanosNow
  let s ← handleDue s now
  let s ← match ← nextLine with
    | some line => handleLine s now line
    | none => pure s
  (← IO.getStdout).flush
  loop nextLine s

/-- A look at the input: the next line, if there is one by now. The program ends only after the line
that is being read at its end. -/
def lines : IO (IO (Option String)) := do
  let input ← IO.getStdin
  let reader ← IO.mkRef (← IO.asTask input.getLine .dedicated)
  return do
    let current ← reader.get
    if !(← IO.hasFinished current) then return none
    match current.get with
    | .ok line =>
      if line.isEmpty then return none
      reader.set (← IO.asTask input.getLine .dedicated)
      return some line
    | .error _ => return none

/-- Runs a machine in a window on the terminal. -/
def display (machine : Machine) (settings : WindowSettings) (seed : UInt64) : IO Unit := do
  match Window.start machine settings (randomPitches seed) with
  | .error failure => throw (IO.userError failure.error.message)
  | .ok window =>
    let now ← IO.monoNanosNow
    let s ← serveAll ⟨window, window.schedule.map fun (task, _) => (task, now), []⟩ now
    loop (← lines) s

end Chip8.Terminal

open Chip8 CommandLine in
/-- Runs the command line and returns its status. -/
def main (arguments : List String) : IO UInt32 := do
  let seed := (← IO.monoNanosNow).toUInt64
  let outcome ← match Settings.ofArguments arguments with
    | .error stop => pure (stopped stop)
    | .ok (path, settings) => do
      pure (conclude settings (Terminal.randomBytes seed) (← Terminal.readFile path))
  for line in outcome.output do IO.println line
  for line in outcome.errors do IO.eprintln line
  if let .opened machine request := outcome then
    if let .ok settings := request.settings then
      Terminal.display { machine with log := [] } settings seed
  return outcome.status.toUInt32
