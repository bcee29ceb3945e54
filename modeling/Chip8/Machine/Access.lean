import Chip8.Machine.Step

/-!
# Access by access

The same step once more, at the pace at which a program goes through memory: every byte is read or
written on its own, every address is resolved when its turn comes, and the cells of a sprite are
flipped one after the other. A fault stops the step where it arises, and what was done up to there
stays done. The addresses are kept as the instruction computes them, before they wrap around.
-/

namespace Chip8

/-- A machine on its way through a step. -/
structure Tracked where
  machine : Machine
  /-- The addresses that were dereferenced, the latest first. -/
  touched : List Nat

/-- Something done to a machine, which a fault may stop. -/
abbrev Access := EStateM Fault Tracked

namespace Access

/-- The machine as it is now. -/
def machine : Access Machine := fun t => .ok t.machine t

/-- A change that goes to no address. -/
def change (f : Machine → Machine) : Access Unit :=
  fun t => .ok () { t with machine := f t.machine }

/-- Stops at a fault if there is one. -/
def stopAt (fault? : Option Fault) : Access Unit := fun t =>
  match fault? with
  | some f => .error f t
  | none => .ok () t

/-- The place that an address stands for. -/
def place (a : Nat) : Access Address := do
  let m ← machine
  stopAt (m.addressFault? a)
  modify fun t => { t with touched := a :: t.touched }
  return BitVec.ofNat 12 a

/-- One byte of memory. -/
def read (a : Nat) : Access Byte := do
  let p ← place a
  let m ← machine
  return m.byteAt p

/-- One byte of memory replaced. -/
def write (a : Nat) (b : Byte) : Access Unit := do
  let p ← place a
  change (·.setByte p b)

/-- Stops at the fault of a stretch, before any of it is dereferenced. -/
def checkSpan (count : Nat) : Access Unit := do
  let m ← machine
  stopAt (m.spanFault? count)

/-- One cell flipped, and whether it or an earlier one was lit. -/
def flipCell (hit : Bool) (place : Fin (Layout.width * Layout.height)) : Access Bool := do
  let m ← machine
  change ({ · with screen := m.screen.flip place })
  return hit || m.screen.litAt place

/-- One row of a sprite, from the left. A row without a lit pixel is passed over. -/
def drawRow (x y : Byte) (start : Nat) (hit : Bool) (row : Nat) : Access Bool := do
  let pixels ← read (start + row)
  if pixels = 0 then return hit
  (List.range 8).foldlM
    (fun hit column =>
      if pixels.getMsbD column
        then flipCell hit (Screen.position (y.toNat + row) (x.toNat + column)) else return hit)
    hit

/-- A sprite, row by row. -/
def draw (i : Instruction) : Access Unit := do
  let m ← machine
  checkSpan i.n.toNat
  let hit ← (List.range i.n.toNat).foldlM (drawRow (m.v i.x) (m.v i.y) m.index.toNat) false
  change fun m => { m with redraw := true }.setV Machine.flagRegister (if hit then 1 else 0)

/-- The decimal digits of a register, one after the other. -/
def storeDecimal (i : Instruction) : Access Unit := do
  let m ← machine
  checkSpan 3
  write m.index.toNat (m.v i.x / 100)
  write (m.index.toNat + 1) (m.v i.x / 10 % 10)
  write (m.index.toNat + 2) (m.v i.x % 10)

/-- A register copied to memory. -/
def storeRegister (start j : Nat) : Access Unit := do
  let m ← machine
  write (start + j) (m.v (BitVec.ofNat 4 j))

/-- A register filled from memory. -/
def loadRegister (start j : Nat) : Access Unit := do
  let b ← read (start + j)
  change (·.setV (BitVec.ofNat 4 j) b)

/-- The registers up to the first operand, one after the other. -/
def transfer (i : Instruction) (one : Nat → Nat → Access Unit) : Access Unit := do
  let m ← machine
  checkSpan (i.x.toNat + 1)
  (List.range (i.x.toNat + 1)).forM (one m.index.toNat)

/-- An instruction. One that goes to no memory is refused or has its effect at once. -/
def execute (i : Instruction) : Access Unit := do
  match i.op with
  | .draw => draw i; change Machine.next
  | .storeDecimal => storeDecimal i; change Machine.next
  | .store => transfer i storeRegister; change Machine.next
  | .load => transfer i loadRegister; change Machine.next
  | _ =>
    let m ← machine
    stopAt (m.fault? i)
    change (·.effect i)

/-- One step. -/
def step : Access Unit := do
  let m ← machine
  let high ← read m.pc.toNat
  let low ← read (m.pc.toNat + 1)
  let i := Instruction.decode (.ofBytes high low)
  change (·.note (.trace m.pc i))
  execute i
  change Machine.finishStep

end Access

/-- The addresses that a machine dereferences in a step, in order and before they wrap around. A
step that is stopped dereferences those before the fault. -/
def Machine.dereferenced (m : Machine) : List Nat :=
  match Access.step ⟨m, []⟩ with
  | .ok _ t | .error _ t => t.touched.reverse

end Chip8
