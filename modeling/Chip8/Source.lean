import Chip8.Word

/-!
# Sources

An endless sequence and how many of its items have been drawn. Random bytes and random pitches come
from sources, so that what is drawn is a function of the state.
-/

namespace Chip8

/-- A sequence and the place in it. -/
structure Source (α : Type) where
  itemAt : Nat → α
  drawn : Nat

namespace Source

variable {α : Type}

/-- A list of items over and over; the default item over and over if the list is empty. -/
def cycle (default : α) (items : List α) : Source α :=
  let table := items.toArray
  ⟨fun k => table.getD (k % table.size) default, 0⟩

/-- The item that is drawn next. -/
def peek (s : Source α) : α := s.itemAt s.drawn

/-- The source after one item has been drawn. -/
def advance (s : Source α) : Source α := { s with drawn := s.drawn + 1 }

end Source

end Chip8
