import Chip8.Proofs.Instruction.Listing
import Chip8.Proofs.Machine.Loading
import Chip8.Proofs.Machine.Moment
import Chip8.Proofs.Machine.Tracing

/-!
# Programs run as they are listed

A program that fits is found in memory byte by byte after it was loaded (`byteAt_loaded`). It stays
there until an instruction stores over it, a reset clears it or another program is loaded
(`byteAt_performAll`). So wherever the program counter stands at an entry of the listing that
nothing was stored over, the machine executes and traces that entry: `executes_as_listed`.
-/

namespace Chip8

/-- Whether an operation puts a program into memory or takes it away. -/
def Operation.replacesProgram : Operation → Bool
  | load _ | reset => true
  | _ => false

/-- Whether an instruction is executed that stores a byte at an address. -/
def Moment.stores (moment : Moment) (a : Address) : Prop :=
  ∃ i, moment.executed = some i ∧ moment.machine.stores i a

namespace Machine

variable {m : Machine} {operation : Operation} {operations : List Operation} {i : Instruction}
  {a : Address}

/-! ## Loading -/

/-- A program that fits is written to memory. -/
lemma perform_load_of_fits {rom : List Byte} (fits : rom.length ≤ Layout.maxRomSize) :
    m.perform (.load (.bytes rom)) =
      ((m.writeFrom Layout.programStart rom).note (.loaded rom.length), .done) :=
  (perform_load_of_data m rfl).trans (if_neg (Nat.not_lt_of_le fits))

/-- A program that fits is found in memory from its start on. -/
lemma byteAt_loaded {rom : List Byte} {j : Nat} (fits : rom.length ≤ Layout.maxRomSize)
    (inside : j < rom.length) :
    (m.perform (.load (.bytes rom))).1.byteAt (BitVec.ofNat 12 (Layout.programStart + j)) =
      rom[j] := by
  rw [perform_load_of_fits fits, note_eq]
  exact byteAt_writeFrom (Nat.le_trans fits (by decide)) inside

/-! ## Runs -/

/-- A run of one operation is this operation. -/
lemma performAll_singleton (m : Machine) (operation : Operation) :
    (m.performAll [operation]).1 = (m.perform operation).1 := rfl

/-- A byte stays as it was unless an instruction stores there or the program is replaced. -/
lemma byteAt_perform (keeps : operation.replacesProgram = false)
    (untouched : ¬ Moment.stores ⟨m, operation⟩ a) :
    (m.perform operation).1.byteAt a = m.byteAt a := by
  cases operation with
  | step =>
    rw [perform_step]
    cases stopped : m.step.2 with
    | some f =>
      obtain ⟨log, result⟩ := step_of_fails stopped
      rw [result]
      rfl
    | none =>
      obtain ⟨i, executes⟩ := exists_executed_of_done stopped
      obtain ⟨_, result⟩ := perform_of_executed executes
      rw [perform_step] at result
      rw [result]
      by_contra changed
      exact untouched ⟨i, executes, (frame_finishStep_effect _ i).of_note.memory a changed⟩
  | load payload => cases keeps
  | reset => cases keeps
  | pressKey v | releaseKey v =>
    rw [perform, moveKey_eq]
    rfl
  | tickTimers | consumeRedraw | setLogging on => rfl

/-- A byte that no step of a run stores to is the same after the run. -/
lemma byteAt_performAll (keeps : ∀ operation ∈ operations, operation.replacesProgram = false)
    (untouched : ∀ moment ∈ m.moments operations, ¬ moment.stores a) :
    (m.performAll operations).1.byteAt a = m.byteAt a := by
  induction operations generalizing m with
  | nil => rfl
  | cons operation operations ih =>
    have rest := ih (m := (m.perform operation).1) (fun o member => keeps o (.tail _ member))
      (fun moment member => untouched moment (.tail _ member))
    exact rest.trans (byteAt_perform (keeps _ (.head _)) (untouched _ (.head _)))

/-- An instruction that is fetched and not refused is executed. -/
lemma executed_of_fetch (fetched : m.fetch = .ok i) (accepted : m.fault? i = none) :
    Moment.executed ⟨m, .step⟩ = some i :=
  executed_eq_some_iff.2 ⟨rfl, by rw [step_of_fetch fetched, accepted], fetched⟩

/-- The instruction that is fetched is logged and executed. -/
lemma step_eq_execute (fetched : m.fetch = .ok i) :
    m.step =
      match (m.note (.trace m.pc i)).execute i with
      | .ok m' => (m'.finishStep, none)
      | .error f => (m.note (.trace m.pc i), some f) := by
  rw [step_of_fetch fetched, execute, fault?_note]
  cases m.fault? i with
  | some f => rfl
  | none => rfl

/-- Where two bytes of a program still stand, their word is fetched. -/
lemma fetch_of_standing {rom : List Byte} {k : Nat} (fits : rom.length ≤ Layout.maxRomSize)
    (inside : 2 * k + 1 < rom.length) (here : m.pc.toNat = Layout.programStart + 2 * k)
    (high : m.byteAt (BitVec.ofNat 12 m.pc.toNat) = rom[2 * k])
    (low : m.byteAt (BitVec.ofNat 12 (m.pc.toNat + 1)) = rom[2 * k + 1]) :
    m.fetch = .ok (.decode (.ofBytes rom[2 * k] rom[2 * k + 1])) := by
  have last : m.pc.toNat + 1 ≤ 0xFFF := by
    have bound : rom.length ≤ 3584 := fits
    have place : m.pc.toNat = 512 + 2 * k := here
    omega
  refine fetch_eq_ok_iff.2 ⟨?_, ?_, ?_⟩
  · exact addressFault?_eq_none_iff.2 (.inr (Nat.le_of_succ_le last))
  · exact addressFault?_eq_none_iff.2 (.inr last)
  · rw [opcode, high, low]

/-- A program runs as it is listed. The listing of a program that fits has an entry for every two
bytes, from the place on where programs begin. After the program was loaded into a new machine, and
as long as it is not replaced, whatever else is done: where the program counter stands at an entry,
and neither its place nor the next one was stored to, that entry is fetched, executed and traced. -/
theorem executes_as_listed (options : Options) (logging : Bool) (random : Source Byte)
    {rom : List Byte} (fits : rom.length ≤ 3584) :
    let listing := disassemble Layout.programStart rom
    let loaded := (fresh options logging random).perform (.load (.bytes rom))
    listing.length = rom.length / 2 ∧
    (∀ (k : Nat) entry, listing[k]? = some entry → entry.address = 0x200 + 2 * k) ∧
    loaded.2 = .done ∧
    ∀ operations : List Operation, (∀ operation ∈ operations, operation.replacesProgram = false) →
      let m := (loaded.1.performAll operations).1
      ∀ entry ∈ listing, m.pc.toNat = entry.address →
        (∀ moment ∈ loaded.1.moments operations,
          ¬ moment.stores (BitVec.ofNat 12 m.pc.toNat) ∧
          ¬ moment.stores (BitVec.ofNat 12 (m.pc.toNat + 1))) →
        m.fetch = .ok entry.instruction ∧
        m.step = (match (m.note (.trace m.pc entry.instruction)).execute entry.instruction with
          | .ok m' => (m'.finishStep, none)
          | .error f => (m.note (.trace m.pc entry.instruction), some f)) ∧
        (m.logging = true → ∃ remarks : List String,
          m.step.1.lines =
            m.lines ++ (Hex.upperInt 3 entry.address ++ ": " ++ entry.instruction.mnemonic) ::
              remarks) := by
  intro listing loaded
  refine ⟨length_disassemble _ _, ?_, ?_, ?_⟩
  · intro k entry listed
    obtain ⟨_, rfl⟩ := getElem?_disassemble_eq_some_iff.1 listed
    rfl
  · exact congrArg Prod.snd (perform_load_of_fits fits)
  · intro operations keeps m entry listed here untouched
    obtain ⟨k, listed⟩ := List.mem_iff_getElem?.1 listed
    obtain ⟨inside, rfl⟩ := getElem?_disassemble_eq_some_iff.1 listed
    have place : m.pc.toNat = Layout.programStart + 2 * k := by
      have same : (m.pc.toNat : Int) = (Layout.programStart : Int) + 2 * k := here
      omega
    have high : m.byteAt (BitVec.ofNat 12 m.pc.toNat) = rom[2 * k] := by
      rw [byteAt_performAll keeps fun moment member => (untouched moment member).1, place]
      exact byteAt_loaded fits _
    have low : m.byteAt (BitVec.ofNat 12 (m.pc.toNat + 1)) = rom[2 * k + 1] := by
      rw [byteAt_performAll keeps fun moment member => (untouched moment member).2, place]
      exact byteAt_loaded fits inside
    have fetched := fetch_of_standing fits inside place high low
    refine ⟨fetched, step_eq_execute fetched, ?_⟩
    intro on
    rw [lines_step_of_fetch on fetched]
    exact ⟨_, by rw [← here]; rfl⟩

/-- A program that fills memory jumps to its last word. A strict machine executes and traces that
word, although there is no address behind it. -/
theorem last_word_executed :
    let rom : List Byte := [0x1F, 0xFE] ++ (List.replicate 3580 0 ++ [0x62, 0x07])
    let loaded := (fresh ⟨.bit, true, true⟩ true (.cycle 0 [])).perform (.load (.bytes rom))
    let m := (loaded.1.performAll [.step]).1
    rom.length = 3584 ∧ m.pc = 0xFFE ∧ m.fetch = .ok ⟨.loadByte, 0x6207⟩ ∧ m.step.2 = none ∧
      ∃ remarks : List String, m.step.1.lines = m.lines ++ "FFE: LD V2, 07" :: remarks := by
  -- What stands between the first and the last word does not matter.
  have between : (List.replicate 3580 (0 : Byte)).length = 3580 := List.length_replicate
  generalize List.replicate 3580 (0 : Byte) = middle at between
  intro rom
  have size : rom.length = 3584 := by
    rw [List.length_append, List.length_append, between]
    rfl
  have last (j : Nat) : rom[3582 + j]? = ([0x62, 0x07] : List Byte)[j]? := by
    have behind : (middle ++ [0x62, 0x07])[3580 + j]? = ([0x62, 0x07] : List Byte)[j]? := by
      rw [List.getElem?_append_right (by rw [between]; exact Nat.le_add_right _ _), between,
        Nat.add_sub_cancel_left]
    rw [← behind, show 3582 + j = 3580 + j + 1 + 1 by omega]
    exact List.getElem?_cons_succ.trans List.getElem?_cons_succ
  have start := perform_load_eq (fresh ⟨.bit, true, true⟩ true (.cycle 0 [])) (.bytes rom)
  obtain ⟨_, _, _, runs⟩ :=
    executes_as_listed ⟨.bit, true, true⟩ true (.cycle 0 []) (Nat.le_of_eq size)
  generalize (fresh ⟨.bit, true, true⟩ true (.cycle 0 [])).perform (.load (.bytes rom)) =
    loaded at start runs ⊢
  have jump : Instruction.decode (.ofBytes 0x1F 0xFE) = ⟨.jp, 0x1FFE⟩ := by decide
  have fetched : loaded.1.fetch = .ok ⟨.jp, 0x1FFE⟩ := by
    rw [← jump]
    exact (runs [] (by simp) _ (mem_disassemble (k := 0) rfl rfl) (by rw [performAll, start]; rfl)
      (by simp [moments])).1
  have jumps : Moment.executed ⟨loaded.1, .step⟩ = some ⟨.jp, 0x1FFE⟩ :=
    executed_of_fetch fetched (fault?_of_spanLength (by decide) (by decide) rfl)
  have untouched (a : Address) : ∀ moment ∈ loaded.1.moments [.step], ¬ moment.stores a := by
    rintro moment (_ | ⟨_, ⟨⟩⟩) ⟨i, stored, written⟩
    cases jumps.symm.trans stored
    exact written
  have keeps : ∀ operation ∈ [Operation.step], operation.replacesProgram = false := by
    simp [Operation.replacesProgram]
  have arrived : (loaded.1.performAll [.step]).1.pc = 0xFFE := by
    rw [performAll_singleton, pc_perform_of_executed jumps]
    rfl
  have on : (loaded.1.performAll [.step]).1.logging = true := by
    obtain ⟨_, result⟩ := perform_of_executed jumps
    rw [performAll_singleton, result, finishStep_eq, effect_eq, note_eq, start]
    rfl
  obtain ⟨fetched', loads, traced⟩ :=
    runs [.step] keeps _ (mem_disassemble (k := 1791) (last 0) (last 1)) (by rw [arrived]; rfl)
      fun moment member => ⟨untouched _ moment member, untouched _ moment member⟩
  refine ⟨size, arrived, fetched', ?_, ?_⟩
  · rw [loads]
    rfl
  · obtain ⟨remarks, line⟩ := traced on
    exact ⟨remarks, line⟩

end Machine

end Chip8
