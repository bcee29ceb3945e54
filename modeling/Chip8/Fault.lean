import Chip8.Text.Hex
import Chip8.Value
import Chip8.Word

/-!
# Faults

What the machine refuses to do. A fault names its cause; the text shown for it is one function of
the cause.
-/

namespace Chip8

/-- The causes of failure of the machine. -/
inductive Fault where
  /-- A program does not fit above the place where programs begin. -/
  | romTooLarge (size limit : Int)
  /-- An address, a key or another place lies outside the machine. -/
  | outOfRange (what : String) (value : Value)
  /-- A call at this place found the stack full. -/
  | stackOverflow (pc : Value)
  /-- A return at this place found the stack empty. -/
  | stackUnderflow (pc : Value)
deriving Repr, Inhabited

namespace Fault

/-- An address beyond the last one. -/
def address (a : Nat) : Fault := outOfRange "Address" (.int a)

/-- A value that is no key. -/
def key (v : Value) : Fault := outOfRange "Key" v

/-- A call with a full stack. -/
def callAt (pc : Word) : Fault := stackOverflow (.int pc.toNat)

/-- A return with an empty stack. -/
def returnAt (pc : Word) : Fault := stackUnderflow (.int pc.toNat)

/-- What a call with a full stack reports as out of range. -/
def overflowPlace : String := "Stack overflow on CALL at PC"

/-- What a return with an empty stack reports as out of range. -/
def underflowPlace : String := "Stack underflow on RET at PC"

/-- What was out of range, and the value it had; a program that is too large has neither. -/
def place? : Fault → Option (String × Value)
  | romTooLarge .. => none
  | outOfRange what value => some (what, value)
  | stackOverflow pc => some (overflowPlace, pc)
  | stackUnderflow pc => some (underflowPlace, pc)

/-- An integer in hexadecimal, any other value as it is shown elsewhere. -/
def shown (v : Value) : String :=
  match v.toInt? with
  | some n => "0x" ++ Hex.upperInt 1 n
  | none => v.literal

/-- The text for a value that is out of range. -/
def placeMessage (what : String) (value : Value) : String :=
  what ++ " out of range: " ++ shown value

/-- The text of a fault. -/
def message : Fault → String
  | romTooLarge size limit =>
    "ROM is " ++ toString size ++ " bytes, only " ++ toString limit ++ " fit above 0x200"
  | outOfRange what value => placeMessage what value
  | stackOverflow pc => placeMessage overflowPlace pc
  | stackUnderflow pc => placeMessage underflowPlace pc

end Fault

end Chip8
