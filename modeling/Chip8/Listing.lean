import Chip8.Instruction.Mnemonic
import Chip8.Layout

/-!
# Listings

A program read as consecutive words, each with its address. A byte left over at the end is no
instruction. Addresses simply count on; a listing may be longer than the memory of a machine.
-/

namespace Chip8

/-- An instruction and where it stands. -/
structure ListingEntry where
  address : Int
  instruction : Instruction
deriving DecidableEq, Repr

/-- The instructions of a program whose first byte stands at `origin`. -/
def disassemble (origin : Int) : List Byte → List ListingEntry
  | high :: low :: rest => ⟨origin, .decode (.ofBytes high low)⟩ :: disassemble (origin + 2) rest
  | _ => []

/-- A line of a listing: address, opcode and mnemonic, two spaces apart. -/
def ListingEntry.line (e : ListingEntry) : String :=
  Hex.upperInt 3 e.address ++ "  " ++ Hex.upper 4 e.instruction.opcode.toNat ++ "  " ++
    e.instruction.mnemonic

/-- The lines of the listing of a program at its usual place. -/
def listingLines (program : List Byte) : List String :=
  (disassemble Layout.programStart program).map ListingEntry.line

/-- The listing of a program, each line closed by a newline. -/
def listing (program : List Byte) : String := String.join ((listingLines program).map (· ++ "\n"))

end Chip8
