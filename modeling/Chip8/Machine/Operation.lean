import Chip8.Machine.Load
import Chip8.Machine.Step

/-!
# Operations of a host

Everything a host does to a machine, as data, so that histories of a machine can be written down and
run.
-/

namespace Chip8

/-- Something a host does to a machine. -/
inductive Operation where
  | step
  | load (payload : Payload)
  | reset
  | pressKey (key : Value)
  | releaseKey (key : Value)
  | tickTimers
  | consumeRedraw
  | setLogging (on : Bool)
deriving Repr

/-- What a host gets back. -/
inductive Answer where
  | done
  | flag (b : Bool)
  | refused (e : LoadError)
deriving Repr

namespace Machine

/-- The key that a number stands for: an integer from 0 to 15. -/
def key? : Value → Option Nibble
  | .int n => if 0 ≤ n ∧ n < Layout.keyCount then some (BitVec.ofInt 4 n) else none
  | _ => none

/-- The keys that a value selects. A truth value passes for the integer that it is, but the key
cells take it for a mask: true selects all of them and false none. -/
def keys? : Value → Option (List Nibble)
  | .bool b => some (if b then allKeys else [])
  | v => (key? v).map ([·])

/-- The machine with the keys that a value selects pressed or released. -/
def moveKey (m : Machine) (v : Value) (down : Bool) : Machine × Answer :=
  match keys? v with
  | some keys => (m.setAllDown keys down, .done)
  | none => (m, .refused (.fault (.key v)))

/-- What an operation does and answers. A refused operation changes nothing but the log. -/
def perform (m : Machine) : Operation → Machine × Answer
  | .step =>
    match m.step with
    | (m, some f) => (m, .refused (.fault f))
    | (m, none) => (m, .done)
  | .load payload =>
    match m.load payload with
    | .error e => (m, .refused e)
    | .ok m => (m, .done)
  | .reset => (m.reset, .done)
  | .pressKey v => m.moveKey v true
  | .releaseKey v => m.moveKey v false
  | .tickTimers => (m.tickTimers, .done)
  | .consumeRedraw => (m.clearRedraw, .flag m.redraw)
  | .setLogging on => ({ m with logging := on }, .done)

/-- Operations in turn, and the answer to each. -/
def performAll (m : Machine) : List Operation → Machine × List Answer
  | [] => (m, [])
  | operation :: operations =>
    let (m, answer) := m.perform operation
    let (m, answers) := m.performAll operations
    (m, answer :: answers)

end Machine

end Chip8
