import Chip8.Machine.Access
import Chip8.Proofs.Machine.Addressing
import Chip8.Proofs.Machine.Step
import Chip8.Proofs.Screen.Flip

/-!
# Access by access is at once

A step that goes to memory one byte at a time, and may be stopped at any of them, is the step that
asks once and then has its effect at once, whether it is done or fails: `run_step`. The check in
front of a stretch speaks for every access of the loop behind it, so no loop is stopped halfway. The
loops are followed by induction on the number of bytes that are left (`run_rows`,
`run_storeRegisters`, `run_loadRegisters`); `dereferenced_eq` lists the addresses that a step goes
to.
-/

namespace Chip8.Access

variable {α β : Type} {m : Machine} {touched : List Nat} {i : Instruction}

/-- After an access that is made the next one follows. -/
lemma bind_of_ok {p : Access α} {next : α → Access β} {t t' : Tracked} {a : α}
    (done : p t = .ok a t') :
    (p >>= next) t = next a t' := by
  simp only [bind, EStateM.bind, done]

/-- After an access that is refused nothing follows. -/
lemma bind_of_error {p : Access α} {next : α → Access β} {t t' : Tracked} {f : Fault}
    (stopped : p t = .error f t') :
    (p >>= next) t = .error f t' := by
  simp only [bind, EStateM.bind, stopped]

/-! ## One access -/

/-- A fault stops an access. -/
lemma stopAt_of_some {fault? : Option Fault} {f : Fault} {t : Tracked} (some : fault? = some f) :
    stopAt fault? t = .error f t := by
  rw [some]
  rfl

/-- Without a fault an access goes on. -/
lemma stopAt_of_none {fault? : Option Fault} {t : Tracked} (none : fault? = none) :
    stopAt fault? t = .ok () t := by
  rw [none]
  rfl

/-- An address that is accepted is noted, and wrapped around. -/
lemma place_of_accepted {a : Nat} (accepted : m.addressFault? a = none) :
    place a ⟨m, touched⟩ = .ok (BitVec.ofNat 12 a) ⟨m, a :: touched⟩ :=
  (bind_of_ok rfl).trans (bind_of_ok (stopAt_of_none accepted))

/-- An address that is refused is not noted. -/
lemma place_of_refused {a : Nat} {f : Fault} (refused : m.addressFault? a = some f) :
    place a ⟨m, touched⟩ = .error f ⟨m, touched⟩ :=
  (bind_of_ok rfl).trans (bind_of_error (stopAt_of_some refused))

/-- A byte is read from an address that is accepted. -/
lemma read_of_accepted {a : Nat} (accepted : m.addressFault? a = none) :
    read a ⟨m, touched⟩ = .ok (m.byteAt (BitVec.ofNat 12 a)) ⟨m, a :: touched⟩ :=
  bind_of_ok (place_of_accepted accepted)

/-- No byte is read from an address that is refused. -/
lemma read_of_refused {a : Nat} {f : Fault} (refused : m.addressFault? a = some f) :
    read a ⟨m, touched⟩ = .error f ⟨m, touched⟩ :=
  bind_of_error (place_of_refused refused)

/-- A byte is written to an address that is accepted. -/
lemma write_of_accepted {a : Nat} {b : Byte} (accepted : m.addressFault? a = none) :
    write a b ⟨m, touched⟩ = .ok () ⟨m.setByte (BitVec.ofNat 12 a) b, a :: touched⟩ :=
  bind_of_ok (place_of_accepted accepted)

/-- A stretch that is refused stops an access before its first byte. -/
lemma checkSpan_of_refused {count : Nat} {f : Fault} (refused : m.spanFault? count = some f) :
    checkSpan count ⟨m, touched⟩ = .error f ⟨m, touched⟩ :=
  (bind_of_ok rfl).trans (stopAt_of_some refused)

/-- A stretch that is accepted is only looked at. -/
lemma checkSpan_of_accepted {count : Nat} (accepted : m.spanFault? count = none) :
    checkSpan count ⟨m, touched⟩ = .ok () ⟨m, touched⟩ :=
  (bind_of_ok rfl).trans (stopAt_of_none accepted)

/-- The addresses of the `count` bytes from the index register on, before they wrap around. -/
def stretch (m : Machine) (count : Nat) : List Nat := (List.range count).map (m.index.toNat + ·)

/-- If a stretch is accepted, each of its addresses is. The count starts at zero, as it does in the
loops. -/
lemma accepts_stretch {count : Nat} (accepted : m.spanFault? count = none) :
    ∀ j < 0 + count, m.addressFault? (m.index.toNat + j) = none := by
  intro j inside
  exact Machine.addressFault?_of_spanFault? accepted (by omega)

/-! ## Sprites -/

/-- The pixels of a row flip the cells under them one by one. -/
lemma run_pixels (x y pixels : Byte) (row : Nat) (columns : List Nat) (hit : Bool) :
    columns.foldlM
        (fun hit column =>
          if pixels.getMsbD column then
            flipCell hit (Screen.position (y.toNat + row) (x.toNat + column))
          else return hit)
        hit ⟨m, touched⟩ =
      let struck := (columns.filterMap fun column =>
          if pixels.getMsbD column then some (Screen.position (y.toNat + row) (x.toNat + column))
          else none).foldl
        Screen.strike (m.screen, hit)
      .ok struck.2 ⟨{ m with screen := struck.1 }, touched⟩ := by
  induction columns generalizing m hit with
  | nil => rfl
  | cons column columns ih =>
    rw [List.foldlM_cons, List.filterMap_cons]
    cases pixels.getMsbD column with
    | false => exact ih hit
    | true => exact ih _

/-- A row is read, then its cells are flipped. -/
lemma run_drawRow (touched : List Nat) (x y : Byte) (hit : Bool) {start row : Nat}
    (accepted : m.addressFault? (start + row) = none) :
    drawRow x y start hit row ⟨m, touched⟩ =
      let struck := (Screen.rowCells x y (m.byteAt (BitVec.ofNat 12 (start + row))) row).foldl
        Screen.strike (m.screen, hit)
      .ok struck.2 ⟨{ m with screen := struck.1 }, (start + row) :: touched⟩ := by
  rw [drawRow, bind_of_ok (read_of_accepted accepted)]
  split
  · next dark =>
    rw [dark, Screen.rowCells_zero]
    rfl
  · exact run_pixels x y _ row _ hit

/-- The rows of a sprite are drawn one after the other, each on what the rows before it have
left. -/
lemma run_rows (touched : List Nat) (x y : Byte) (hit : Bool) {start first count : Nat}
    (accepted : ∀ j < first + count, m.addressFault? (start + j) = none) :
    (List.range' first count).foldlM (drawRow x y start) hit ⟨m, touched⟩ =
      let struck := ((List.range' first count).flatMap fun row =>
          Screen.rowCells x y (m.byteAt (BitVec.ofNat 12 (start + row))) row).foldl Screen.strike
            (m.screen, hit)
      .ok struck.2 ⟨{ m with screen := struck.1 },
        ((List.range' first count).map (start + ·)).reverse ++ touched⟩ := by
  induction count generalizing m touched first hit with
  | zero => rfl
  | succ count ih =>
    have row := run_drawRow touched x y hit (accepted first (by omega))
    have rest : ∀ j < first + 1 + count, m.addressFault? (start + j) = none :=
      fun j h => accepted j (by omega)
    -- The rows that are left start from the screen and the flag that this one leaves.
    rw [List.range'_succ, List.foldlM_cons, bind_of_ok row, List.flatMap_cons, List.foldl_append,
      List.map_cons, List.reverse_cons, List.append_assoc]
    exact ih _ _ rest

/-- A sprite drawn cell by cell is the sprite drawn at once. -/
lemma run_draw (accepted : m.spanFault? i.n.toNat = none) :
    draw i ⟨m, touched⟩ =
      .ok () ⟨m.drawSprite (m.v i.x) (m.v i.y) i.n.toNat, (stretch m i.n.toNat).reverse ++
        touched⟩ := by
  have fits : (m.readSpan i.n.toNat).length ≤ Layout.height := by
    have short := i.n.isLt
    simp only [Machine.readSpan, Machine.readFrom, List.length_map, List.length_range,
      Layout.height]
    omega
  have cells : ((List.range i.n.toNat).flatMap fun row =>
      Screen.rowCells (m.v i.x) (m.v i.y) (m.byteAt (BitVec.ofNat 12 (m.index.toNat + row))) row) =
      Screen.spriteCells (m.v i.x) (m.v i.y) (m.readSpan i.n.toNat) :=
    (Screen.spriteCells_map_range _ _).symm
  -- No cell occurs twice, so the cells that are lit when their turn comes are those that were lit
  -- before.
  have rows := run_rows touched (m.v i.x) (m.v i.y) false (accepts_stretch accepted)
  rw [← List.range_eq_range', cells, Screen.foldl_strike (Screen.nodup_spriteCells fits),
    Bool.false_or] at rows
  refine (bind_of_ok rfl).trans ?_
  refine (bind_of_ok (checkSpan_of_accepted accepted)).trans ?_
  exact bind_of_ok rows

/-! ## Stretches of bytes -/

/-- The digits of a number are stored one by one. -/
lemma run_storeDecimal (accepted : m.spanFault? 3 = none) :
    storeDecimal i ⟨m, touched⟩ =
      .ok () ⟨m.writeSpan (Machine.decimalDigits (m.v i.x)), (stretch m 3).reverse ++ touched⟩ := by
  have first : m.addressFault? m.index.toNat = none :=
    Machine.addressFault?_of_spanFault? accepted (show 0 < 3 by omega)
  have second := Machine.addressFault?_of_spanFault? accepted (show 1 < 3 by omega)
  have third := Machine.addressFault?_of_spanFault? accepted (show 2 < 3 by omega)
  refine (bind_of_ok rfl).trans ?_
  refine (bind_of_ok (checkSpan_of_accepted accepted)).trans ?_
  refine (bind_of_ok (write_of_accepted ?_)).trans
    ((bind_of_ok (write_of_accepted ?_)).trans (write_of_accepted ?_))
  · exact first
  · exact second
  · exact third

/-- Registers are stored one by one. -/
lemma run_storeRegisters (touched : List Nat) {start first count : Nat}
    (accepted : ∀ j < first + count, m.addressFault? (start + j) = none) :
    (List.range' first count).forM (storeRegister start) ⟨m, touched⟩ =
      .ok () ⟨m.writeFrom (start + first) ((List.range' first count).map fun r =>
        m.v (BitVec.ofNat 4 r)),
        ((List.range' first count).map (start + ·)).reverse ++ touched⟩ := by
  induction count generalizing m touched first with
  | zero => rfl
  | succ count ih =>
    have one : storeRegister start first ⟨m, touched⟩ =
        .ok () ⟨m.setByte (BitVec.ofNat 12 (start + first)) (m.v (BitVec.ofNat 4 first)),
          (start + first) :: touched⟩ :=
      (bind_of_ok rfl).trans (write_of_accepted (accepted first (by omega)))
    have rest : ∀ j < first + 1 + count, m.addressFault? (start + j) = none :=
      fun j h => accepted j (by omega)
    rw [List.range'_succ, List.map_cons, List.map_cons, List.reverse_cons, List.append_assoc]
    exact (bind_of_ok one).trans (ih _ rest)

/-- Registers are loaded one by one. -/
lemma run_loadRegisters (touched : List Nat) {start first count : Nat}
    (accepted : ∀ j < first + count, m.addressFault? (start + j) = none) :
    (List.range' first count).forM (loadRegister start) ⟨m, touched⟩ =
      .ok () ⟨m.setRegisters first ((List.range' first count).map fun j =>
        m.byteAt (BitVec.ofNat 12 (start + j))),
        ((List.range' first count).map (start + ·)).reverse ++ touched⟩ := by
  induction count generalizing m touched first with
  | zero => rfl
  | succ count ih =>
    have one : loadRegister start first ⟨m, touched⟩ =
        .ok () ⟨m.setV (BitVec.ofNat 4 first) (m.byteAt (BitVec.ofNat 12 (start + first))),
          (start + first) :: touched⟩ :=
      (bind_of_ok (read_of_accepted (accepted first (by omega)))).trans rfl
    have rest : ∀ j < first + 1 + count, m.addressFault? (start + j) = none :=
      fun j h => accepted j (by omega)
    rw [List.range'_succ, List.map_cons, List.map_cons, List.reverse_cons, List.append_assoc]
    exact (bind_of_ok one).trans (ih _ rest)

/-- Storing registers goes through the stretch from its first byte to its last. -/
lemma run_store (accepted : m.spanFault? (i.x.toNat + 1) = none) :
    transfer i storeRegister ⟨m, touched⟩ =
      .ok () ⟨m.writeSpan (m.registersTo i.x), (stretch m (i.x.toNat + 1)).reverse ++ touched⟩ := by
  have all := run_storeRegisters touched (accepts_stretch accepted)
  rw [← List.range_eq_range'] at all
  refine (bind_of_ok rfl).trans ?_
  refine (bind_of_ok (checkSpan_of_accepted accepted)).trans ?_
  exact all

/-- Loading registers goes through the stretch from its first byte to its last. -/
lemma run_load (accepted : m.spanFault? (i.x.toNat + 1) = none) :
    transfer i loadRegister ⟨m, touched⟩ =
      .ok () ⟨m.setRegisters 0 (m.readSpan (i.x.toNat + 1)), (stretch m (i.x.toNat + 1)).reverse ++
        touched⟩ := by
  have all := run_loadRegisters touched (accepts_stretch accepted)
  rw [← List.range_eq_range'] at all
  refine (bind_of_ok rfl).trans ?_
  refine (bind_of_ok (checkSpan_of_accepted accepted)).trans ?_
  exact all

/-! ## Instructions and steps -/

/-- An instruction that is accepted has its effect, and goes through its stretch from the first byte
to the last. -/
lemma run_execute_of_accepted (accepted : m.fault? i = none) :
    execute i ⟨m, touched⟩ = .ok () ⟨m.effect i, (stretch m i.spanLength).reverse ++ touched⟩ := by
  obtain ⟨op, opcode⟩ := i
  cases op with
  | draw => exact bind_of_ok (run_draw accepted)
  | storeDecimal => exact bind_of_ok (run_storeDecimal accepted)
  | store => exact bind_of_ok (run_store accepted)
  | load => exact bind_of_ok (run_load accepted)
  | _ => exact (bind_of_ok rfl).trans (bind_of_ok (stopAt_of_none accepted))

/-- An instruction that is refused stops before it changes anything. -/
lemma run_execute_of_refused {f : Fault} (refused : m.fault? i = some f) :
    execute i ⟨m, touched⟩ = .error f ⟨m, touched⟩ := by
  obtain ⟨op, opcode⟩ := i
  cases op with
  | draw | storeDecimal | store | load =>
    exact bind_of_error ((bind_of_ok rfl).trans (bind_of_error (checkSpan_of_refused refused)))
  | _ => exact (bind_of_ok rfl).trans (bind_of_error (stopAt_of_some refused))

/-- The addresses of the instruction itself, the later one first. -/
def fetches (m : Machine) : List Nat := [m.pc.toNat + 1, m.pc.toNat]

/-- A step that is not stopped at the fetch goes on with the instruction. -/
lemma run_step_of_fetch (touched : List Nat) (fetched : m.fetch = .ok i) :
    step ⟨m, touched⟩ =
      (execute i >>= fun _ => change Machine.finishStep)
        ⟨m.note (.trace m.pc i), fetches m ++ touched⟩ := by
  obtain ⟨high, low, rfl⟩ := Machine.fetch_eq_ok_iff.1 fetched
  refine (bind_of_ok rfl).trans ?_
  refine (bind_of_ok (read_of_accepted high)).trans ?_
  exact (bind_of_ok (read_of_accepted low)).trans (bind_of_ok rfl)

/-- A step that is stopped at the fetch changes nothing. -/
lemma run_step_of_noFetch {f : Fault} (noFetch : m.fetch = .error f) :
    ∃ visited, step ⟨m, touched⟩ = .error f ⟨m, visited⟩ := by
  rcases Machine.fetch_eq_error_iff.1 noFetch with high | ⟨high, low⟩
  · exact ⟨_, (bind_of_ok rfl).trans (bind_of_error (read_of_refused high))⟩
  · refine ⟨m.pc.toNat :: touched, (bind_of_ok rfl).trans ?_⟩
    exact (bind_of_ok (read_of_accepted high)).trans (bind_of_error (read_of_refused low))

/-- A stretch does not depend on the log. -/
lemma stretch_note (e : LogEntry) (count : Nat) : stretch (m.note e) count = stretch m count := by
  rw [Machine.note_eq]
  rfl

/-- What a step does access by access is what it does at once. -/
theorem run_step (m : Machine) (touched : List Nat) :
    ∃ visited, step ⟨m, touched⟩ =
      match m.step with
      | (m', none) => .ok () ⟨m', visited⟩
      | (m', some f) => .error f ⟨m', visited⟩ := by
  have rule := m.stepsTo_step
  generalize m.step = result at rule ⊢
  cases rule with
  | noFetch noFetch => exact run_step_of_noFetch noFetch
  | @refused i f fetched refused =>
    rw [← Machine.fault?_note (.trace m.pc i)] at refused
    exact ⟨_, (run_step_of_fetch touched fetched).trans
      (bind_of_error (run_execute_of_refused refused))⟩
  | @done i fetched accepted =>
    rw [← Machine.fault?_note (.trace m.pc i)] at accepted
    exact ⟨_, (run_step_of_fetch touched fetched).trans
      (bind_of_ok (run_execute_of_accepted accepted))⟩

/-- A machine that wraps goes to the two addresses of its instruction and to the stretch of the
instruction. -/
theorem dereferenced_eq (wraps : m.options.strict = false) :
    m.dereferenced =
      m.pc.toNat :: (m.pc.toNat + 1) :: stretch m (Instruction.decode m.opcode).spanLength := by
  have accepts : ∀ a, m.addressFault? a = none :=
    fun a => Machine.addressFault?_eq_none_iff.2 (.inl wraps)
  have fetched : m.fetch = .ok (.decode m.opcode) :=
    Machine.fetch_eq_ok_iff.2 ⟨accepts _, accepts _, rfl⟩
  generalize Instruction.decode m.opcode = i at fetched ⊢
  have same := Machine.fault?_note (m := m) (.trace m.pc i) i
  cases refused : m.fault? i with
  | none =>
    rw [refused] at same
    have run := (run_step_of_fetch [] fetched).trans (bind_of_ok (run_execute_of_accepted same))
    rw [Machine.dereferenced, run, stretch_note]
    show ((stretch m i.spanLength).reverse ++ fetches m).reverse = _
    rw [List.reverse_append, List.reverse_reverse]
    rfl
  | some f =>
    rw [refused] at same
    have run := (run_step_of_fetch [] fetched).trans (bind_of_error (run_execute_of_refused same))
    -- Only a return or a call is refused by such a machine, and neither has a stretch.
    have short : i.spanLength = 0 := by
      rcases Machine.fault?_eq_some_iff.1 refused with ⟨ret, _⟩ | ⟨call, _⟩ | span
      · rw [Instruction.spanLength, ret]
      · rw [Instruction.spanLength, call]
      · rw [Machine.spanFault?_of_not_strict _ wraps] at span
        cases span
    rw [Machine.dereferenced, run, short]
    rfl

end Chip8.Access
