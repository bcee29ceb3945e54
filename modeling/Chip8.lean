import Chip8.Machine.Operation
import Chip8.Main
import Chip8.Proofs.CommandLine.Order
import Chip8.Proofs.CommandLine.Outcome
import Chip8.Proofs.CommandLine.Settings
import Chip8.Proofs.Instruction.Assembler
import Chip8.Proofs.Instruction.Form
import Chip8.Proofs.Instruction.ReadBack
import Chip8.Proofs.Instruction.Reordering
import Chip8.Proofs.Machine.Arithmetic
import Chip8.Proofs.Machine.Arrival
import Chip8.Proofs.Machine.Drawing
import Chip8.Proofs.Machine.Failure
import Chip8.Proofs.Machine.Index
import Chip8.Proofs.Machine.Program
import Chip8.Proofs.Machine.Redraw
import Chip8.Proofs.Machine.Reset
import Chip8.Proofs.Machine.Strict
import Chip8.Proofs.Machine.Subroutine
import Chip8.Proofs.Machine.Superposition
import Chip8.Proofs.Machine.Timers
import Chip8.Proofs.Machine.Tracing
import Chip8.Proofs.Machine.Transfer
import Chip8.Proofs.Number.Double
import Chip8.Proofs.Number.Numeral
import Chip8.Proofs.Number.Rounding
import Chip8.Proofs.Pacer.Batching
import Chip8.Proofs.Pacer.Budget
import Chip8.Proofs.Screen.Pixels
import Chip8.Proofs.Window.Closing
import Chip8.Proofs.Window.Counters
import Chip8.Proofs.Window.Keys
import Chip8.Proofs.Window.Shown
import Chip8.Proofs.Window.Sound
