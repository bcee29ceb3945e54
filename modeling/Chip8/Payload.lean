import Chip8.Value
import Chip8.Word

/-!
# Payloads

What a host hands over to be loaded: the bytes themselves, or a value that stands for bytes. A list
stands for the bytes it lists, a non-negative integer for so many zeros, and nothing else for any
bytes. The elements of a list are looked at in order, and the first bad one is the error.
-/

namespace Chip8

/-- The bytes of a program. A count of zeros stays a count, however large it is. -/
inductive Rom where
  | data (bytes : List Byte)
  | zeros (count : Nat)
deriving DecidableEq, Repr

namespace Rom

/-- The number of bytes. -/
def size : Rom → Nat
  | data bytes => bytes.length
  | zeros count => count

/-- The bytes one by one. -/
def bytes : Rom → List Byte
  | data bytes => bytes
  | zeros count => List.replicate count 0

end Rom

/-- Why a value stands for no bytes. -/
inductive PayloadError where
  /-- An element of a list is no integer. -/
  | notInteger (typeName : String)
  /-- An element of a list does not fit a byte. -/
  | notByte
  /-- A number of zeros is negative. -/
  | negativeCount
  /-- A number of zeros does not fit 64 bits. -/
  | countTooLarge
  /-- The value is neither a list nor an integer. -/
  | notBytes (typeName : String)
deriving DecidableEq, Repr

/-- The text of a payload error. -/
def PayloadError.message : PayloadError → String
  | notInteger typeName => "'" ++ typeName ++ "' object cannot be interpreted as an integer"
  | notByte => "bytes must be in range(0, 256)"
  | negativeCount => "negative count"
  | countTooLarge => "cannot fit 'int' into an index-sized integer"
  | notBytes typeName => "cannot convert '" ++ typeName ++ "' object to bytes"

/-- Bytes, or a value of the host that may stand for bytes. -/
inductive Payload where
  | bytes (data : List Byte)
  | value (v : Value)
deriving Repr

namespace Payload

/-- The byte a value stands for. -/
def byteOf (v : Value) : Except PayloadError Byte :=
  match v.toInt? with
  | none => .error (.notInteger v.typeName)
  | some n => if 0 ≤ n ∧ n < 256 then .ok (BitVec.ofInt 8 n) else .error .notByte

/-- The bytes of a list, or the error of its first bad element. -/
def bytesOf : List Value → Except PayloadError (List Byte)
  | [] => .ok []
  | v :: vs => do
    let b ← byteOf v
    let bs ← bytesOf vs
    return b :: bs

/-- Counts are below this number and not below its negative: they fit 64 bits. -/
def countLimit : Int := 0x8000000000000000

/-- So many zeros. -/
def zerosOf (count : Int) : Except PayloadError Rom :=
  if count < -countLimit ∨ countLimit ≤ count then .error .countTooLarge
  else if count < 0 then .error .negativeCount
  else .ok (.zeros count.toNat)

/-- The program a payload stands for. The keys of a dictionary are its elements. -/
def toRom : Payload → Except PayloadError Rom
  | bytes data => .ok (.data data)
  | value (.list items) => (bytesOf items).map .data
  | value (.dict entries) => (bytesOf (entries.map fun (key, _) => .text key)).map .data
  | value v =>
    match v.toInt? with
    | some count => zerosOf count
    | none => .error (.notBytes v.typeName)

end Payload

end Chip8
