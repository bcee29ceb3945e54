import Chip8.CommandLine.Argument
import Chip8.Layout

/-!
# Settings

What a command line asks for. The arguments are taken in order: the first plain value is the path of
the program, an option that needs a value takes the plain value after it, a later option replaces an
earlier one, and whatever has no place is collected. Two dashes attached to an option that needs a
value leave the value blank. Errors of single options come first, then a missing path, then what had
no place.
-/

namespace Chip8.CommandLine

/-- What stands for the value of an option. -/
inductive OptionValue (α : Type) where
  /-- The option is there, and in the place of its value there are two dashes. -/
  | blank
  | value (a : α)
deriving DecidableEq, Repr

/-- What a command line asks for. -/
structure Settings where
  path : Option String := none
  scale : OptionValue Nat := .value Layout.defaultScale
  cpuHz : OptionValue Nat := .value Layout.defaultCpuHz
  /-- The rate of timers on a clock of their own; without the option the machine ticks its timers
  itself. -/
  timerHz : Option (OptionValue Nat) := none
  shiftFlag : OptionValue ShiftFlag := .value .bit
  strict : Bool := false
  log : Bool := false
  disasm : Bool := false
  /-- Arguments that had no place. -/
  extras : List String := []
deriving DecidableEq, Repr

/-- What ends the reading of arguments early. -/
inductive Stop where
  | help
  | error (e : ArgumentError)
deriving DecidableEq, Repr

/-- The value of an option from its text; two dashes are never read. -/
def OptionValue.ofText {α : Type} (read : String → Except Stop α) (text : String) :
    Except Stop (OptionValue α) :=
  if text = "--" then .ok .blank else (read text).map .value

namespace Settings

/-- A positive number for an option. -/
def number (f : Flag) (text : String) : Except Stop Nat :=
  match Numeral.readPositive text with
  | .ok n => .ok n
  | .error (.notPositive _) => .error (.error (.notPositive f text))
  | .error _ => .error (.error (.badNumber f text))

/-- One of the names of shift flags. -/
def choice (text : String) : Except Stop ShiftFlag :=
  match ShiftFlag.ofName? text with
  | some shiftFlag => .ok shiftFlag
  | none => .error (.error (.badChoice text))

/-- The settings with an option that needs a value. -/
def setValue (s : Settings) (f : Flag) (text : String) : Except Stop Settings :=
  match f with
  | .scale => do return { s with scale := ← OptionValue.ofText (number f) text }
  | .cpuHz => do return { s with cpuHz := ← OptionValue.ofText (number f) text }
  | .timerHz => do return { s with timerHz := some (← OptionValue.ofText (number f) text) }
  | .shiftFlag => do return { s with shiftFlag := ← OptionValue.ofText choice text }
  | _ => .error (.error (.valueIgnored f text))

/-- The settings with an option that needs no value. -/
def setFlag (s : Settings) (f : Flag) : Except Stop Settings :=
  match f with
  | .strict => .ok { s with strict := true }
  | .log => .ok { s with log := true }
  | .disasm => .ok { s with disasm := true }
  | .help => .error .help
  | _ => .error (.error (.valueMissing f))

/-- The settings with an argument that has no place. -/
def addExtra (s : Settings) (text : String) : Settings := { s with extras := s.extras ++ [text] }

/-- The settings with a plain value: the path, unless there is one already. -/
def addValue (s : Settings) (text : String) : Settings :=
  if s.path.isNone then { s with path := some text } else s.addExtra text

/-- What letters after the short option for help come to. Each `h` is the same option again;
anything else begins a value that is not needed. -/
def letters (tail : List Char) : Stop :=
  match tail.dropWhile (· == 'h') with
  | [] => .help
  | rest => .error (.valueIgnored .help (String.ofList rest))

/-- The settings after arguments in turn. The separator goes with the path if it stands beside
it. -/
def addAll (s : Settings) : List Argument → Except Stop Settings
  | [] => .ok s
  | .value text :: .separator :: rest =>
    if s.path.isNone then (s.addValue text).addAll rest
    else ((s.addValue text).addExtra "--").addAll rest
  | .value text :: rest => (s.addValue text).addAll rest
  | .separator :: .value text :: rest =>
    if s.path.isNone then (s.addValue text).addAll rest
    else ((s.addExtra "--").addValue text).addAll rest
  | .separator :: rest => (s.addExtra "--").addAll rest
  | .flag f (some attached) :: rest => do
    let s ← s.setValue f attached
    s.addAll rest
  | .flag f none :: .value text :: rest =>
    if f.takesValue then do
      let s ← s.setValue f text
      s.addAll rest
    else do
      let s ← s.setFlag f
      s.addAll (.value text :: rest)
  | .flag f none :: rest => do
    let s ← s.setFlag f
    s.addAll rest
  | .letters tail :: _ => .error (letters tail)
  | .unknown text :: rest => (s.addExtra text).addAll rest

/-- The path and the settings a command line asks for. -/
def ofArguments (texts : List String) : Except Stop (String × Settings) := do
  let arguments ← (Argument.ofTexts texts).mapError Stop.error
  let settings ← addAll {} arguments
  match settings.path with
  | none => .error (.error .pathMissing)
  | some path =>
    if settings.extras.isEmpty then return (path, settings)
    else .error (.error (.unrecognized settings.extras))

end Settings

end Chip8.CommandLine
