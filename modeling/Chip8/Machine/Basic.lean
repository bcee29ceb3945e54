import Chip8.CallStack
import Chip8.Fault
import Chip8.LogEntry
import Chip8.Machine.Options
import Chip8.Screen
import Chip8.Source

/-!
# The machine

The state of a machine, the state it starts in, and the small changes all others are made of.
-/

namespace Chip8

/-- The state of a machine. -/
structure Machine where
  memory : Vector Byte Layout.memorySize
  registers : Vector Byte Layout.registerCount
  index : Word
  pc : Word
  calls : CallStack
  delayTimer : Byte
  soundTimer : Byte
  screen : Screen
  /-- Which keys are down. -/
  keys : Vector Bool Layout.keyCount
  /-- Whether the screen may have changed since the host last asked. -/
  redraw : Bool
  /-- Steps that succeeded. -/
  cycles : Nat
  /-- Words passed over because they are no documented instruction. -/
  unknownOpcodes : Nat
  /-- Where random bytes come from. -/
  random : Source Byte
  options : Options
  logging : Bool
  /-- What was logged, the latest entry first. -/
  log : List LogEntry

namespace Machine

/-- Memory before a program is loaded: the font from address 0, zeros above it. -/
def initialMemory : Vector Byte Layout.memorySize :=
  ⟨(Layout.font ++ List.replicate (Layout.memorySize - Layout.font.length) 0).toArray, by
    rw [List.size_toArray, List.length_append, List.length_replicate,
      Nat.add_sub_of_le (by decide)]⟩

/-- A machine that has done nothing yet. -/
def fresh (options : Options) (logging : Bool) (random : Source Byte) : Machine where
  memory := initialMemory
  registers := Vector.replicate _ 0
  index := 0
  pc := Layout.programStart
  calls := .empty
  delayTimer := 0
  soundTimer := 0
  screen := .blank
  keys := Vector.replicate _ false
  redraw := false
  cycles := 0
  unknownOpcodes := 0
  random := random
  options := options
  logging := logging
  log := []

/-- The machine as it was new. Options, logging and what has been logged stay, and random bytes go
on where they were. -/
def reset (m : Machine) : Machine := { fresh m.options m.logging m.random with log := m.log }

/-- The places of the calls that have not returned, the latest first. -/
def stack (m : Machine) : List Word := m.calls.pending

/-- The byte at an address. -/
def byteAt (m : Machine) (a : Address) : Byte := m.memory[a.toFin]

/-- The machine with a byte of memory replaced. -/
def setByte (m : Machine) (a : Address) (b : Byte) : Machine :=
  { m with memory := m.memory.set a.toNat b a.isLt }

/-- The content of a register. -/
def v (m : Machine) (r : Nibble) : Byte := m.registers[r.toFin]

/-- The machine with the content of a register replaced. -/
def setV (m : Machine) (r : Nibble) (b : Byte) : Machine :=
  { m with registers := m.registers.set r.toNat b r.isLt }

/-- The register that flags go to. -/
abbrev flagRegister : Nibble := 0xF

/-- The machine with a result in a register and a flag in the flag register. The flag is written
last, so it wins where the two are the same register. -/
def setFlagged (m : Machine) (r : Nibble) (f : Flagged) : Machine :=
  (m.setV r f.result).setV flagRegister f.flag

/-- Whether a key is down. -/
def isDown (m : Machine) (k : Nibble) : Bool := m.keys[k.toFin]

/-- The machine with a key pressed or released. -/
def setDown (m : Machine) (k : Nibble) (down : Bool) : Machine :=
  { m with keys := m.keys.set k.toNat down k.isLt }

/-- The machine with keys pressed or released one after the other. -/
def setAllDown (m : Machine) (keys : List Nibble) (down : Bool) : Machine :=
  { m with keys := keys.foldl (fun cells k => cells.set k.toNat down k.isLt) m.keys }

/-- The keys of the keypad. -/
def allKeys : List Nibble := (List.range Layout.keyCount).map (BitVec.ofNat 4)

/-- The key with the lowest number among those that are down. -/
def lowestDown? (m : Machine) : Option Nibble := allKeys.find? m.isDown

/-- The machine after something has been logged, which happens only while logging is on. -/
def note (m : Machine) (e : LogEntry) : Machine :=
  if m.logging then { m with log := e :: m.log } else m

/-- The machine with the program counter at an address. -/
def jump (m : Machine) (a : Address) : Machine := { m with pc := a.toWord }

/-- The machine at the next instruction. -/
def next (m : Machine) : Machine := { m with pc := (m.pc + 2).wrap }

/-- The machine at the next instruction but one if the condition holds, at the next one
otherwise. -/
def skipIf (m : Machine) (condition : Bool) : Machine :=
  if condition then { m with pc := (m.pc + 4).wrap } else m.next

/-- The machine with both timers one lower; a timer stops at zero. -/
def tickTimers (m : Machine) : Machine :=
  { m with
    delayTimer := if m.delayTimer = 0 then 0 else m.delayTimer - 1
    soundTimer := if m.soundTimer = 0 then 0 else m.soundTimer - 1 }

/-- Whether the machine asks for a tone. -/
def soundActive (m : Machine) : Bool := m.soundTimer != 0

/-- The machine with the request for a redraw taken back. -/
def clearRedraw (m : Machine) : Machine := { m with redraw := false }

end Machine

end Chip8
