import Chip8.Machine.Basic

/-!
# Addressing

How an address computed by an instruction becomes a place in memory, and the stretches of memory
that start at the index register. An address beyond the last one wraps around, or is a fault if the
machine is strict; a stretch is checked before any of it is touched.
-/

namespace Chip8.Machine

/-- The fault of an address, if the machine is strict and the address lies beyond the last one. -/
def addressFault? (m : Machine) (a : Nat) : Option Fault :=
  if m.options.strict && Layout.lastAddress < a then some (.address a) else none

/-- The fault of the `count` bytes from the index register: that of the last of them. -/
def spanFault? (m : Machine) (count : Nat) : Option Fault :=
  if count = 0 then none else m.addressFault? (m.index.toNat + count - 1)

/-- The `count` bytes from an address on, which wraps around at the end of memory. -/
def readFrom (m : Machine) (start count : Nat) : List Byte :=
  (List.range count).map fun j => m.byteAt (BitVec.ofNat 12 (start + j))

/-- The machine with bytes written one after the other from an address on, which wraps around at the
end of memory. -/
def writeFrom (m : Machine) (start : Nat) : List Byte → Machine
  | [] => m
  | b :: bytes => (m.setByte (BitVec.ofNat 12 start) b).writeFrom (start + 1) bytes

/-- The `count` bytes from the index register on. -/
def readSpan (m : Machine) (count : Nat) : List Byte := m.readFrom m.index.toNat count

/-- The machine with bytes written from the index register on. -/
def writeSpan (m : Machine) (bytes : List Byte) : Machine := m.writeFrom m.index.toNat bytes

/-- The contents of the registers from `V0` to a register. -/
def registersTo (m : Machine) (last : Nibble) : List Byte :=
  (List.range (last.toNat + 1)).map fun r => m.v (BitVec.ofNat 4 r)

/-- The machine with bytes put into registers one after the other, from a register on. -/
def setRegisters (m : Machine) (first : Nat) : List Byte → Machine
  | [] => m
  | b :: bytes => (m.setV (BitVec.ofNat 4 first) b).setRegisters (first + 1) bytes

/-- The instruction at the program counter. -/
def fetch (m : Machine) : Except Fault Instruction :=
  match (m.addressFault? m.pc.toNat).or (m.addressFault? (m.pc.toNat + 1)) with
  | some f => .error f
  | none =>
    .ok (.decode (.ofBytes (m.byteAt (BitVec.ofNat 12 m.pc.toNat))
      (m.byteAt (BitVec.ofNat 12 (m.pc.toNat + 1)))))

end Chip8.Machine
