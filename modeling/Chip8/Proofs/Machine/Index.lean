import Chip8.Proofs.Machine.Addressing
import Chip8.Proofs.Machine.History

/-!
# The index register

The index register has sixteen bits, memory has twelve. Where a machine wraps, the four bits that
are too many make no difference to anything but the index register itself: two machines that differ
in them alone go the same way (`perform_sameButIndex`), so they are told apart by no run
(`high_index_bits_unseen`).
-/

namespace Chip8.Machine

variable {m m' : Machine} {w : Word}

/-- The machine with another index register. -/
def withIndex (m : Machine) (w : Word) : Machine := { m with index := w }

/-- Two machines that are the same except that their index registers may differ in the bits that go
beyond memory. -/
inductive SameButIndex (m : Machine) : Machine → Prop where
  | withIndex (w : Word) :
    w.toNat % Layout.memorySize = m.index.toNat % Layout.memorySize →
    m.SameButIndex (m.withIndex w)

/-- Two such machines have the same memory. -/
lemma SameButIndex.byteAt_eq (alike : m.SameButIndex m') (a : Address) :
    m'.byteAt a = m.byteAt a := by
  cases alike with
  | withIndex w place => rfl

/-! ## Steps -/

/-- An instruction takes the index register on, or replaces it, at the same place. -/
lemma nextIndex_withIndex (i : Instruction) (place : w.toNat % 4096 = m.index.toNat % 4096) :
    ((m.withIndex w).nextIndex i).toNat % 4096 = (m.nextIndex i).toNat % 4096 := by
  obtain ⟨op, opcode⟩ := i
  cases op with
  | addIndex =>
    show (w + (m.v _).zeroExtend 16).toNat % 4096 = (m.index + (m.v _).zeroExtend 16).toNat % 4096
    rw [BitVec.toNat_add, BitVec.toNat_add]
    omega
  | loadIndex | loadGlyph => rfl
  | _ => exact place

/-- A machine that wraps refuses nothing for its index register. -/
lemma fault?_withIndex (wraps : m.options.strict = false) (w : Word) (i : Instruction) :
    (m.withIndex w).fault? i = m.fault? i := by
  have wraps' : (m.withIndex w).options.strict = false := wraps
  obtain ⟨op, opcode⟩ := i
  cases op with
  | ret | call => rfl
  | _ => exact (spanFault?_of_not_strict _ wraps').trans (spanFault?_of_not_strict _ wraps).symm

/-- What a step leaves is the same, apart from an index register that stands for the same place. -/
lemma nextRest_withIndex (wraps : m.options.strict = false)
    (place : w.toNat % 4096 = m.index.toNat % 4096) :
    ∃ w' : Word, w'.toNat % 4096 = m.nextRest.index.toNat % 4096 ∧
      (m.withIndex w).nextRest = { m.nextRest with index := w' } := by
  refine nextRest_related m (m.withIndex w)
    (P := fun r r' => ∃ w', w'.toNat % 4096 = r.index.toNat % 4096 ∧ r' = { r with index := w' })
    rfl (fun i _ => fault?_withIndex wraps w i) ⟨w, place, rfl⟩ (fun _ => ⟨w, place, rfl⟩) ?_
  intro i _
  exact ⟨(m.withIndex w).nextIndex i, nextIndex_withIndex i place, rfl⟩

/-- A step of a machine that wraps does not tell the two apart. -/
lemma step_sameButIndex (wraps : m.options.strict = false) (alike : m.SameButIndex m') :
    m'.step.2 = m.step.2 ∧ m.step.1.SameButIndex m'.step.1 := by
  cases alike with
  | withIndex w place =>
    have same : (m.withIndex w).step = (m.step.1.withRest (m.withIndex w).nextRest, m.step.2) :=
      step_withRest (r := { m.rest with index := w }) rfl (fun i _ => fault?_withIndex wraps w i)
        fun _ _ => ⟨place, rfl, fun _ => rfl, fun _ => rfl, fun _ => rfl⟩
    obtain ⟨w', place', rest⟩ := nextRest_withIndex wraps place
    rw [same, rest]
    rw [← rest_step] at place' ⊢
    exact ⟨rfl, .withIndex w' place'⟩

/-! ## Runs -/

/-- A program is loaded alike. -/
lemma withProgram_withIndex (w : Word) (m : Machine) (rom : Rom) :
    (m.withIndex w).withProgram rom = (m.withProgram rom).withIndex w :=
  withProgram_withRest m { m.rest with index := w } rom

/-- Nor does any other operation. -/
lemma perform_sameButIndex (wraps : m.options.strict = false) (alike : m.SameButIndex m')
    (operation : Operation) :
    (m'.perform operation).2 = (m.perform operation).2 ∧
      (m.perform operation).1.SameButIndex (m'.perform operation).1 := by
  cases operation with
  | step =>
    obtain ⟨same, alike'⟩ := step_sameButIndex wraps alike
    rw [perform_step, perform_step, same]
    exact ⟨rfl, alike'⟩
  | load payload =>
    cases alike with
    | withIndex w place =>
      rw [perform_load_comm (withProgram_withIndex w)]
      refine ⟨rfl, .withIndex w ?_⟩
      rw [perform_load_eq]
      exact place
  | pressKey value | releaseKey value =>
    cases alike with
    | withIndex w place =>
      rw [perform, perform, moveKey_comm (f := (withIndex · w)) fun _ _ _ => rfl]
      refine ⟨rfl, .withIndex w ?_⟩
      rw [moveKey_eq]
      exact place
  | reset =>
    cases alike with
    | withIndex w place => exact ⟨rfl, .withIndex 0 rfl⟩
  | tickTimers | consumeRedraw | setLogging on =>
    cases alike with
    | withIndex w place => exact ⟨rfl, .withIndex w place⟩

/-- No run of operations tells the two apart. -/
lemma performAll_sameButIndex (wraps : m.options.strict = false) (alike : m.SameButIndex m')
    (operations : List Operation) :
    (m'.performAll operations).2 = (m.performAll operations).2 ∧
      (m.performAll operations).1.SameButIndex (m'.performAll operations).1 := by
  induction operations generalizing m m' with
  | nil => exact ⟨rfl, alike⟩
  | cons operation operations ih =>
    obtain ⟨answer, alike'⟩ := perform_sameButIndex wraps alike operation
    have wraps' : (m.perform operation).1.options.strict = false := by
      rw [options_perform]
      exact wraps
    obtain ⟨answers, last⟩ := ih wraps' alike'
    refine ⟨?_, last⟩
    simp only [performAll, answer, answers]

/-- The index register wraps around at sixteen bits where it is added to. -/
lemma index_step_of_addIndex {i : Instruction} (fetched : m.fetch = .ok i)
    (adds : i.op = .addIndex) :
    m.step.1.index.toNat = (m.index.toNat + (m.v i.x).toNat) % 65536 := by
  have accepted : m.fault? i = none := by
    apply fault?_of_spanLength
    · simp [adds]
    · simp [adds]
    · rw [Instruction.spanLength, adds]
  have next : m.nextIndex i = m.index + (m.v i.x).zeroExtend 16 := by rw [nextIndex, adds]
  rw [step_of_fetch fetched, accepted, finishStep_eq, effect_eq, note_eq]
  show (m.nextIndex i).toNat = _
  rw [next, BitVec.toNat_add, BitVec.zeroExtend_eq_setWidth, BitVec.toNat_setWidth]
  omega

/-- Where a machine wraps, the high bits of its index register are not seen. Two machines that
differ in them alone give the same answers, and go through states that differ in them alone,
whatever is done to both. The bits are kept, as an instruction that adds to the index register wraps
it around at sixteen bits. -/
theorem high_index_bits_unseen (wraps : m.options.strict = false) (alike : m.SameButIndex m') :
    (∀ operations : List Operation,
      (m'.performAll operations).2 = (m.performAll operations).2 ∧
      (m.performAll operations).1.SameButIndex (m'.performAll operations).1) ∧
    (∀ (directory : Directory) (path : String),
      (m'.loadFile directory path).2 = (m.loadFile directory path).2 ∧
      (m.loadFile directory path).1.SameButIndex (m'.loadFile directory path).1) ∧
    ∀ i, m.fetch = .ok i → i.op = .addIndex →
      m.step.1.index.toNat = (m.index.toNat + (m.v i.x).toNat) % 65536 ∧
      m'.step.1.index.toNat = (m'.index.toNat + (m.v i.x).toNat) % 65536 := by
  refine ⟨performAll_sameButIndex wraps alike, ?_, ?_⟩
  · intro directory path
    cases alike with
    | withIndex w place =>
      have notes (m : Machine) (e : LogEntry) : (m.withIndex w).note e =
          (m.note e).withIndex w := by
        rw [note_eq, note_eq]
        rfl
      rw [loadFile_comm (withProgram_withIndex w) notes]
      refine ⟨rfl, .withIndex w ?_⟩
      rw [loadFile_eq]
      exact place
  · intro i fetched adds
    refine ⟨index_step_of_addIndex fetched adds, ?_⟩
    cases alike with
    | withIndex w place => exact index_step_of_addIndex (m := m.withIndex w) fetched adds

/-- An index register beyond memory, and the same without its high bits. The sum of the first one
wraps around at sixteen bits, that of the second one does not wrap around at twelve; both machines
store at the same place. -/
theorem high_bits_unseen_by_store :
    let program : Operation := .load (.bytes [0x60, 0x05, 0xF0, 0x1E, 0xF0, 0x55])
    let loaded := ((fresh ⟨.bit, false, true⟩ false (.cycle 0 [])).perform program).1
    let m := loaded.withIndex 0xFFFF
    let m' := loaded.withIndex 0x0FFF
    (m'.performAll [.step, .step, .step]).2 = (m.performAll [.step, .step, .step]).2 ∧
      (m.performAll [.step, .step]).1.index = 0x0004 ∧
      (m'.performAll [.step, .step]).1.index = 0x1004 ∧
      (m.performAll [.step, .step, .step]).1.byteAt 4 = 5 ∧
      (m'.performAll [.step, .step, .step]).1.byteAt 4 = 5 := by
  intro program loaded m m'
  have stored : (m.performAll [.step, .step]).1.index = 0x0004 ∧
      (m'.performAll [.step, .step]).1.index = 0x1004 ∧
      (m.performAll [.step, .step, .step]).1.byteAt 4 = 5 := by
    decide +kernel
  obtain ⟨first, second, store⟩ := stored
  have wraps : loaded.options.strict = false := congrArg Options.strict (options_perform _ program)
  have place : (0x0FFF : Word).toNat % Layout.memorySize = (0xFFFF : Word).toNat %
      Layout.memorySize := by decide
  -- Said of any machine: the loaded one would be evaluated to compare the two.
  have alike (other : Machine) : (other.withIndex 0xFFFF).SameButIndex (other.withIndex 0x0FFF) :=
    .withIndex 0x0FFF place
  have wraps' (other : Machine) (w : Word) (wraps : other.options.strict = false) :
      (other.withIndex w).options.strict = false := wraps
  obtain ⟨runs, _, _⟩ := high_index_bits_unseen (wraps' loaded 0xFFFF wraps) (alike loaded)
  obtain ⟨answers, last⟩ := runs [.step, .step, .step]
  exact ⟨answers, first, second, store, (last.byteAt_eq 4).trans store⟩

end Chip8.Machine
