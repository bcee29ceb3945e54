import Chip8.CommandLine.Help
import Chip8.CommandLine.Settings
import Chip8.Directory
import Chip8.Listing
import Chip8.Machine.Load
import Chip8.Window.Basic

/-!
# Outcomes

What a command line comes to. The arguments are understood first, then the program is read, and then
it is either listed or loaded into a new machine, which is handed to a window.
-/

namespace Chip8.CommandLine

/-- The window a command line asks for. -/
structure WindowRequest where
  scale : OptionValue Nat
  cpuHz : OptionValue Nat
  timerHz : Nat
deriving DecidableEq, Repr

/-- Why no window can be made as it was asked for. -/
inductive RequestError where
  /-- The size of the window is a multiple of the scale, and the scale is blank. -/
  | scaleBlank
  /-- The rate of steps is compared with zero, and it is blank. -/
  | rateBlank
deriving DecidableEq, Repr

/-- The text of a request error. A blank is an empty list. -/
def RequestError.message : RequestError → String
  | scaleBlank => "a window needs a scale"
  | rateBlank => "'<=' not supported between instances of 'list' and 'int'"

/-- The settings of the window, unless something they need is blank. The display comes first and the
rate of steps behind it. -/
def WindowRequest.settings (r : WindowRequest) : Except RequestError WindowSettings :=
  match r.scale, r.cpuHz with
  | .value scale, .value cpuHz => .ok { scale, cpuHz := .whole cpuHz, timerHz := .whole r.timerHz }
  | .blank, _ => .error .scaleBlank
  | _, .blank => .error .rateBlank

/-- What a command line comes to. -/
inductive Outcome where
  /-- The arguments were not understood. -/
  | misused (e : ArgumentError)
  /-- Help was asked for. -/
  | help
  /-- The path is no path at all. -/
  | badPath (e : FileError)
  /-- The program cannot be read. -/
  | unreadable (e : FileError)
  /-- The program is listed. -/
  | listed (lines : List String)
  /-- No machine has the options that were asked for. -/
  | unusable (e : ShiftFlagError)
  /-- The program cannot be loaded. -/
  | unloadable (e : Fault)
  /-- A window is asked for, on a machine. -/
  | opened (machine : Machine) (request : WindowRequest)

namespace Outcome

/-- The status the program ends with, if nothing goes wrong while a window is open. An error that
ends the program counts as one. -/
def status : Outcome → Nat
  | misused _ => 2
  | badPath _ | unreadable _ | unusable _ | unloadable _ => 1
  | opened _ request =>
    match request.settings with
    | .ok _ => 0
    | .error _ => 1
  | help | listed _ => 0

/-- What is written to the standard output, before a machine runs. -/
def output : Outcome → List String
  | help => helpLines
  | listed lines => lines
  | opened machine _ => machine.log.reverse.map LogEntry.text
  | _ => []

/-- What is written to the standard error. -/
def errors : Outcome → List String
  | misused e => usageLines ++ [programName ++ ": error: " ++ e.message]
  | unreadable e => ["Cannot read ROM: " ++ e.message]
  | badPath e => [e.message]
  | unusable e => [e.message]
  | unloadable e => ["Cannot load ROM: " ++ e.message]
  | opened _ request =>
    match request.settings with
    | .ok _ => []
    | .error e => [e.message]
  | _ => []

end Outcome

/-- The shift flag that was asked for. A blank counts as an empty list, which names none. -/
def chosenFlag : OptionValue ShiftFlag → Except ShiftFlagError ShiftFlag
  | .blank => .error ⟨.list []⟩
  | .value shiftFlag => .ok shiftFlag

/-- A new machine as the settings ask for it. -/
def newMachine (s : Settings) (random : Source Byte) : Except ShiftFlagError Machine :=
  (chosenFlag s.shiftFlag).map fun shiftFlag =>
    .fresh { shiftFlag, strict := s.strict, timersPerStep := s.timerHz.isNone } s.log random

/-- The rate of the timers' clock. The usual one stands for a rate that is missing, blank or
zero. -/
def clockRate : Option (OptionValue Nat) → Nat
  | some (.value rate) => if rate = 0 then Layout.defaultTimerHz else rate
  | _ => Layout.defaultTimerHz

/-- The window as the settings ask for it. -/
def windowRequest (s : Settings) : WindowRequest where
  scale := s.scale
  cpuHz := s.cpuHz
  timerHz := clockRate s.timerHz

/-- What becomes of a program that has been read. -/
def runProgram (s : Settings) (random : Source Byte) (program : List Byte) : Outcome :=
  if s.disasm then .listed (listingLines program)
  else match newMachine s random with
    | .error e => .unusable e
    | .ok machine =>
      match machine.loadRom (.data program) with
      | .error f => .unloadable f
      | .ok machine => .opened machine (windowRequest s)

/-- What arguments that end the reading come to. -/
def stopped : Stop → Outcome
  | .help => .help
  | .error e => .misused e

/-- What understood arguments come to, once the path was read or could not be. -/
def conclude (s : Settings) (random : Source Byte) : Except FileError (List Byte) → Outcome
  | .error .embeddedNul => .badPath .embeddedNul
  | .error e => .unreadable e
  | .ok program => runProgram s random program

/-- What a command line comes to in a directory of files. -/
def run (directory : Directory) (random : Source Byte) (arguments : List String) : Outcome :=
  match Settings.ofArguments arguments with
  | .error stop => stopped stop
  | .ok (path, settings) => conclude settings random (directory.read path)

end Chip8.CommandLine
