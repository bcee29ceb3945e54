import Chip8.Proofs.Machine.Keys
import Chip8.Proofs.Machine.Tracing

/-!
# Resets

Nothing of what a machine has gone through outlives a reset, its log and the place in its random
sequence apart. A reset overwrites the cells where they are, and no old one is left over
(`overwrite_eq_reset`). Afterwards the machine runs like a new one, whose log is seen above the
older one: `reset_forgets`.
-/

namespace Chip8

/-! ## Cells -/

section

variable {α : Type} {size : Nat}

/-- Cells after each of them has been overwritten in turn. -/
def overwritten (cells : Vector α size) (a : α) : Vector α size :=
  (List.finRange size).foldl (fun cells place => cells.set place.val a place.isLt) cells

/-- A cell that is among those overwritten holds the new content, and so does one that held it
before. -/
lemma getElem_foldl_set (cells : Vector α size) {a : α} {places : List (Fin size)} {n : Nat}
    (inside : n < size) (known : ⟨n, inside⟩ ∈ places ∨ cells[n] = a) :
    (places.foldl (fun cells place => cells.set place.val a place.isLt) cells)[n] = a := by
  induction places generalizing cells with
  | nil => exact known.resolve_left List.not_mem_nil
  | cons first places ih =>
    rw [List.foldl_cons]
    refine ih _ ?_
    rcases known with member | holds
    · rcases List.mem_cons.1 member with here | later
      · subst here
        exact .inr (Vector.getElem_set_self _)
      · exact .inl later
    · right
      rw [Vector.getElem_set]
      split
      · rfl
      · exact holds

/-- No old content is left over. -/
lemma overwritten_eq (cells : Vector α size) (a : α) :
    overwritten cells a = Vector.replicate size a := by
  apply Vector.ext
  intro n inside
  rw [Vector.getElem_replicate]
  exact getElem_foldl_set cells inside (.inl (List.mem_finRange _))

end

namespace Machine

variable {m : Machine}

/-- The machine with its cells overwritten where they are, whatever they hold: memory with zeros and
then the font, the registers, the cells of the stack, those of the screen and the keys. -/
def overwrite (m : Machine) : Machine :=
  { { m with memory := overwritten m.memory 0 }.writeFrom 0 Layout.font with
    registers := overwritten m.registers 0
    index := 0
    pc := Layout.programStart
    calls := ⟨overwritten m.calls.cells 0, ⟨0, Nat.succ_pos _⟩⟩
    delayTimer := 0
    soundTimer := 0
    screen := ⟨overwritten m.screen.cells false⟩
    keys := overwritten m.keys false
    redraw := false
    cycles := 0
    unknownOpcodes := 0 }

/-- A new machine has the font at the start of memory and zeros above it. -/
lemma getElem_initialMemory {n : Nat} (inside : n < Layout.memorySize) :
    initialMemory[n] = (Layout.font[n]?).getD 0 := by
  simp only [initialMemory, Vector.getElem_mk, List.getElem_toArray]
  by_cases glyph : n < Layout.font.length
  · rw [List.getElem_append_left glyph, List.getElem?_eq_getElem glyph, Option.getD_some]
  · have above := Nat.le_of_not_lt glyph
    rw [List.getElem_append_right above, List.getElem?_eq_none above, List.getElem_replicate,
      Option.getD_none]

/-- Zeros with the font written over them are the memory of a new machine. -/
lemma memory_writeFrom_font (zeros : m.memory = Vector.replicate _ 0) :
    (m.writeFrom 0 Layout.font).memory = initialMemory := by
  apply Vector.ext
  intro n inside
  have here : BitVec.ofFin ⟨n, inside⟩ = BitVec.ofNat 12 (0 + n) := by
    rw [Nat.zero_add, BitVec.ofFin_eq_ofNat]
  show (m.writeFrom 0 Layout.font).byteAt (BitVec.ofFin ⟨n, inside⟩) = _
  rw [getElem_initialMemory]
  by_cases glyph : n < Layout.font.length
  · rw [here, byteAt_writeFrom (by decide) glyph, List.getElem?_eq_getElem glyph, Option.getD_some]
  · -- Above the font the zeros are left.
    have above : ∀ j < Layout.font.length, BitVec.ofFin ⟨n, inside⟩ ≠ BitVec.ofNat 12 (0 + j) := by
      intro j below same
      have places := congrArg BitVec.toNat same
      simp only [BitVec.toNat_ofFin, BitVec.toNat_ofNat] at places
      omega
    rw [byteAt_writeFrom_of_forall_ne above, List.getElem?_eq_none (Nat.le_of_not_lt glyph), byteAt,
      zeros]
    exact Vector.getElem_replicate _

/-- A reset leaves no old cell. -/
lemma overwrite_eq_reset (m : Machine) : m.overwrite = m.reset := by
  have memory (cells : Vector Byte Layout.memorySize) (zeros : cells = Vector.replicate _ 0) :
      ({ m with memory := cells }.writeFrom 0 Layout.font).memory = initialMemory :=
        memory_writeFrom_font zeros
  rw [overwrite, writeFrom_eq, memory _ (overwritten_eq _ _)]
  simp only [overwritten_eq]
  rfl

/-! ## Runs -/

/-- A run goes the same way whatever lies below in the log. -/
lemma performAll_above (m : Machine) (older : List LogEntry) (operations : List Operation) :
    (m.view (.above older)).performAll operations =
      ((m.performAll operations).1.view (.above older), (m.performAll operations).2) := by
  induction operations generalizing m with
  | nil => rfl
  | cons operation operations ih =>
    have first : (m.view (.above older)).perform operation =
        ((m.perform operation).1.view (.above older), (m.perform operation).2) := by
      by_cases sets : ∃ on, operation = .setLogging on
      · obtain ⟨on, rfl⟩ := sets
        rfl
      · exact perform_view m _ (not_exists.1 sets)
    have rest := ih (m.perform operation).1
    simp only [performAll, first, rest]

/-- Older entries come first among the lines of the log. -/
lemma lines_above (m : Machine) (older : List LogEntry) :
    (m.view (.above older)).lines = older.reverse.map LogEntry.text ++ m.lines := by
  show ((m.log ++ older).reverse.map LogEntry.text) = _
  rw [List.reverse_append, List.map_append]
  rfl

/-- A reset is a full reset. What a machine has gone through makes no difference to what it does
afterwards: whatever is done to it, it gives the answers and goes through the states of a new
machine with the same options, which logs if it logged, and which draws the random bytes that it
would have drawn next. Its log goes on above the older one. The same holds if the cells are
overwritten where they are. -/
theorem reset_forgets (m : Machine) :
    let new := fresh m.options m.logging m.random
    let again := (m.perform .reset).1
    (m.perform .reset).2 = .done ∧ again = m.overwrite ∧
    (∀ operations : List Operation,
      (again.performAll operations).2 = (new.performAll operations).2 ∧
      (again.performAll operations).1 =
        { (new.performAll operations).1 with log := (new.performAll operations).1.log ++ m.log } ∧
      (again.performAll operations).1.lines = m.lines ++ (new.performAll operations).1.lines) ∧
    ∀ (directory : Directory) (path : String),
      (again.loadFile directory path).2 = (new.loadFile directory path).2 ∧
      (again.loadFile directory path).1 =
        { (new.loadFile directory path).1 with log := (new.loadFile directory path).1.log ++
          m.log } := by
  intro new again
  have seen : again = new.view (.above m.log) := rfl
  refine ⟨rfl, (overwrite_eq_reset m).symm, ?_, ?_⟩
  · intro operations
    rw [seen, performAll_above, lines_above]
    exact ⟨rfl, rfl, rfl⟩
  · intro directory path
    rw [seen, loadFile_view]
    exact ⟨rfl, rfl⟩

end Machine

end Chip8
