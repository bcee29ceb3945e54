import Chip8.Layout

/-!
# Call stack

The places of calls, in an array of fixed size that is filled from the bottom. A pointer counts the
calls that have not returned. A return moves the pointer and clears nothing: from the pointer on,
the cells hold what earlier calls left there, and no call looks at them (`pending`).
-/

namespace Chip8

/-- The stack of a machine. -/
structure CallStack where
  cells : Vector Word Layout.stackDepth
  /-- The number of calls that have not returned, and the first cell that is free. -/
  pointer : Fin (Layout.stackDepth + 1)
deriving DecidableEq, Repr

namespace CallStack

variable {s : CallStack}

/-- A stack without calls. -/
def empty : CallStack := ⟨Vector.replicate _ 0, 0⟩

/-- The places of the calls that have not returned, the latest first. -/
def pending (s : CallStack) : List Word := (s.cells.toList.take s.pointer).reverse

/-- The stack after a call. A full stack stays as it is. -/
def push (s : CallStack) (place : Word) : CallStack :=
  if room : s.pointer < Layout.stackDepth then
    { cells := s.cells.set s.pointer place, pointer := ⟨s.pointer + 1, Nat.succ_lt_succ room⟩ }
  else s

/-- The place of the latest call that has not returned. -/
def top? (s : CallStack) : Option Word :=
  if s.pointer = 0 then none else s.cells[s.pointer.val - 1]?

/-- The stack after a return. The place of the call stays in its cell. -/
def pop (s : CallStack) : CallStack :=
  { s with pointer := ⟨s.pointer - 1, Nat.lt_of_le_of_lt (Nat.sub_le _ _) s.pointer.isLt⟩ }

/-- The pointer counts the calls that have not returned. -/
theorem length_pending (s : CallStack) : s.pending.length = s.pointer := by
  rw [pending, List.length_reverse, List.length_take, Vector.length_toList]
  exact Nat.min_eq_left (Nat.le_of_lt_succ s.pointer.isLt)

/-- No call is pending if the pointer is at the bottom. -/
theorem pending_eq_nil_iff : s.pending = [] ↔ s.pointer = 0 := by
  rw [← List.length_eq_zero_iff, length_pending]
  exact Fin.val_eq_zero_iff

/-- A call comes on top of the pending ones, if there is room for it. -/
theorem pending_push (room : s.pointer < Layout.stackDepth) (place : Word) :
    (s.push place).pending = place :: s.pending := by
  have inside : s.pointer.val < s.cells.toList.length := by
    rw [Vector.length_toList]
    exact room
  have written : (s.cells.toList.set s.pointer place).take (s.pointer + 1) =
      s.cells.toList.take s.pointer ++ [place] := by
    rw [List.take_succ_eq_append_getElem (by rw [List.length_set]; exact inside),
      List.getElem_set_self, List.take_set_of_le (Nat.le_refl _)]
  rw [push, dif_pos room]
  show ((s.cells.set s.pointer place).toList.take (s.pointer + 1)).reverse = _
  rw [Vector.toList_set, written, List.reverse_append]
  rfl

/-- The latest call is the first of the pending ones. -/
theorem top?_eq (s : CallStack) : s.top? = s.pending.head? := by
  rw [top?, pending, List.head?_reverse, List.getLast?_take]
  by_cases bottom : s.pointer = 0
  · rw [if_pos bottom, if_pos (Fin.val_eq_zero_iff.2 bottom)]
  · have inside : s.pointer.val - 1 < s.cells.toList.length := by
      have pos : s.pointer.val ≠ 0 := fun zero => bottom (Fin.val_eq_zero_iff.1 zero)
      rw [Vector.length_toList]
      omega
    rw [if_neg bottom, if_neg (fun zero => bottom (Fin.val_eq_zero_iff.1 zero)),
      ← Vector.getElem?_toList, List.getElem?_eq_getElem inside, Option.some_or]

/-- Without a pending call there is nothing to return from. -/
theorem pop_of_top?_eq_none (none : s.top? = none) : s.pop = s := by
  rw [top?_eq, List.head?_eq_none_iff, pending_eq_nil_iff] at none
  have still : (⟨s.pointer - 1, Nat.lt_of_le_of_lt (Nat.sub_le _ _) s.pointer.isLt⟩ : Fin _) =
      s.pointer := by
    rw [none]
    rfl
  rw [pop, still]

/-- A return takes the latest call off the pending ones. -/
theorem pending_pop (s : CallStack) : s.pop.pending = s.pending.tail := by
  have inside : s.pointer ≤ s.cells.toList.length := by
    rw [Vector.length_toList]
    exact Nat.le_of_lt_succ s.pointer.isLt
  show (s.cells.toList.take (s.pointer - 1)).reverse = _
  rw [pending, List.tail_reverse, List.dropLast_eq_take, List.length_take, Nat.min_eq_left inside,
    List.take_take, Nat.min_eq_left (Nat.sub_le _ _)]

end CallStack

end Chip8
