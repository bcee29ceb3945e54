import Chip8.Arithmetic
import Chip8.Value

/-!
# Options

Choices that stay fixed while a machine lives, and how one of them is read from a value of the host.
-/

namespace Chip8

/-- The choices of a machine. -/
structure Options where
  /-- What a shift leaves in the flag register. -/
  shiftFlag : ShiftFlag
  /-- Whether an address beyond the last one is a fault; otherwise it wraps around. -/
  strict : Bool
  /-- Whether the timers tick at the end of every step; otherwise the host ticks them. -/
  timersPerStep : Bool
deriving DecidableEq, Repr

/-- A value that names no shift flag. -/
structure ShiftFlagError where
  value : Value
deriving Repr

/-- The text of a shift flag error. -/
def ShiftFlagError.message (e : ShiftFlagError) : String :=
  "shift_flag must be one of (" ++ ", ".intercalate (ShiftFlag.all.map fun f => quoted f.name) ++
    "), got " ++
    e.value.literal

/-- The shift flag of a given name. -/
def ShiftFlag.ofName? (name : String) : Option ShiftFlag :=
  ShiftFlag.all.find? fun f => f.name == name

/-- The shift flag a value names. -/
def ShiftFlag.ofValue (v : Value) : Except ShiftFlagError ShiftFlag :=
  match v with
  | .text name => match ofName? name with
    | some f => .ok f
    | none => .error ⟨v⟩
  | v => .error ⟨v⟩

end Chip8
