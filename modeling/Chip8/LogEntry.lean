import Chip8.Instruction.Mnemonic
import Chip8.Layout

/-!
# Log

What a machine tells about its work while logging is on, and the line of text for each entry.
-/

namespace Chip8

/-- Something worth a line. -/
inductive LogEntry where
  /-- A file is about to be opened. -/
  | loading (path : String)
  /-- A program has been copied into memory. -/
  | loaded (size : Nat)
  /-- An instruction is about to be executed. -/
  | trace (pc : Word) (instruction : Instruction)
  /-- A call of a machine routine was passed over. -/
  | sysIgnored
  /-- A word that is no documented instruction was passed over. -/
  | unknownOpcode (opcode : Word)
deriving DecidableEq, Repr

/-- The line of an entry. -/
def LogEntry.text : LogEntry → String
  | loading path => "Loading ROM: " ++ path
  | loaded size => "Loaded " ++ toString size ++ " bytes at 0x" ++ Hex.upper 3 Layout.programStart
  | trace pc instruction => Hex.upper 3 pc.toNat ++ ": " ++ instruction.mnemonic
  | sysIgnored => "SYS call ignored (0nnn)"
  | unknownOpcode opcode => "Unknown opcode: " ++ Hex.upper 4 opcode.toNat

end Chip8
