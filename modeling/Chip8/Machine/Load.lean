import Chip8.Directory
import Chip8.Machine.Memory
import Chip8.Payload

/-!
# Loading

A program is copied to the place where programs begin, if it stands for bytes and fits; otherwise
nothing changes. What lies above a shorter program stays.
-/

namespace Chip8

/-- Why nothing was loaded. -/
inductive LoadError where
  | fault (f : Fault)
  | payload (e : PayloadError)
  | file (e : FileError)
deriving Repr

namespace Machine

/-- The machine with a program loaded. -/
def loadRom (m : Machine) (rom : Rom) : Except Fault Machine :=
  if Layout.maxRomSize < rom.size then .error (.romTooLarge rom.size Layout.maxRomSize)
  else .ok ((m.writeFrom Layout.programStart rom.bytes).note (.loaded rom.size))

/-- The machine with the program of a payload loaded. The payload is understood before its size is
looked at. -/
def load (m : Machine) (payload : Payload) : Except LoadError Machine :=
  match payload.toRom with
  | .error e => .error (.payload e)
  | .ok rom => (m.loadRom rom).mapError .fault

/-- The machine after an attempt to load a file, which is logged whether it succeeds or not. -/
def loadFile (m : Machine) (directory : Directory) (path : String) :
    Machine × Except LoadError Unit :=
  let m := m.note (.loading path)
  match directory.read path with
  | .error e => (m, .error (.file e))
  | .ok bytes =>
    match m.load (.bytes bytes) with
    | .error e => (m, .error e)
    | .ok m => (m, .ok ())

end Machine

end Chip8
