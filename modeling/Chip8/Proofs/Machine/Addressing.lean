import Mathlib.Tactic.Lemma
import Chip8.Machine.Step

/-!
# Refusals

When a machine refuses an address, a stretch of memory or an instruction, and with which fault. Each
statement is an equivalence, so it is read in both directions: `addressFault?_eq_some_iff` for one
address, `spanFault?_eq_some_iff` for a stretch, `fault?_eq_some_iff` for an instruction. A stretch
that is not refused has no address that would be (`addressFault?_of_spanFault?`).
-/

namespace Chip8.Machine

variable {m m' : Machine} {i : Instruction} {f : Fault}

/-- Only a strict machine refuses an address, and only one beyond the last. -/
lemma addressFault?_eq_some_iff {a : Nat} :
    m.addressFault? a = some f ↔ m.options.strict = true ∧ Layout.lastAddress < a ∧
    f = .address a := by
  simp only [addressFault?, Bool.and_eq_true, decide_eq_true_eq, Option.ite_none_right_eq_some,
    Option.some.injEq, and_assoc]
  rw [eq_comm (a := f)]

/-- An address is accepted by a machine that wraps, and by any machine if it is not beyond the
last. -/
lemma addressFault?_eq_none_iff {a : Nat} :
    m.addressFault? a = none ↔ m.options.strict = false ∨ a ≤ Layout.lastAddress := by
  simp only [addressFault?, Bool.and_eq_true, decide_eq_true_eq, ite_eq_right_iff, reduceCtorEq,
    imp_false, not_and, Nat.not_lt, Bool.eq_false_iff]
  exact Decidable.imp_iff_not_or

/-- A stretch is refused for its last address. -/
lemma spanFault?_eq_some_iff {count : Nat} :
    m.spanFault? count = some f ↔
      m.options.strict = true ∧ 0 < count ∧ Layout.lastAddress < m.index.toNat + count - 1 ∧
        f = .address (m.index.toNat + count - 1) := by
  rw [spanFault?]
  by_cases empty : count = 0
  · simp [empty]
  · rw [if_neg empty, addressFault?_eq_some_iff]
    have pos : 0 < count := Nat.pos_of_ne_zero empty
    simp only [pos, true_and]

/-- A machine that wraps refuses no stretch. -/
lemma spanFault?_of_not_strict (count : Nat) (wraps : m.options.strict = false) :
    m.spanFault? count = none := by
  rw [Option.eq_none_iff_forall_ne_some]
  intro f h
  rw [(spanFault?_eq_some_iff.1 h).1] at wraps
  cases wraps

/-- The last address of a stretch speaks for all of them. -/
lemma addressFault?_of_spanFault? {count j : Nat} (h : m.spanFault? count = none)
    (inside : j < count) :
    m.addressFault? (m.index.toNat + j) = none := by
  rw [spanFault?, if_neg (by omega), addressFault?_eq_none_iff] at h
  rw [addressFault?_eq_none_iff]
  rcases h with wraps | fits
  · exact .inl wraps
  · exact .inr (by omega)

/-- The word at the program counter. -/
def opcode (m : Machine) : Word :=
  .ofBytes (m.byteAt (BitVec.ofNat 12 m.pc.toNat)) (m.byteAt (BitVec.ofNat 12 (m.pc.toNat + 1)))

/-- An instruction is fetched if both of its addresses are accepted; it is the one of the word
there. -/
lemma fetch_eq_ok_iff :
    m.fetch = .ok i ↔
      m.addressFault? m.pc.toNat = none ∧ m.addressFault? (m.pc.toNat + 1) = none ∧
      i = .decode m.opcode := by
  rw [fetch]
  cases m.addressFault? m.pc.toNat with
  | some f => simp
  | none =>
    cases m.addressFault? (m.pc.toNat + 1) with
    | some f => simp
    | none => simp [opcode, eq_comm]

/-- A machine that wraps fetches the word at its program counter, wherever that is. -/
lemma fetch_of_not_strict {word : Word} (wraps : m.options.strict = false)
    (here : m.opcode = word) :
    m.fetch = .ok (.decode word) :=
  fetch_eq_ok_iff.2
    ⟨addressFault?_eq_none_iff.2 (.inl wraps), addressFault?_eq_none_iff.2 (.inl wraps),
      congrArg _ here.symm⟩

/-- A fetch fails at the first of its addresses that is refused. -/
lemma fetch_eq_error_iff :
    m.fetch = .error f ↔
      m.addressFault? m.pc.toNat = some f ∨
      m.addressFault? m.pc.toNat = none ∧ m.addressFault? (m.pc.toNat + 1) = some f := by
  rw [fetch]
  cases m.addressFault? m.pc.toNat with
  | some g => simp
  | none =>
    cases m.addressFault? (m.pc.toNat + 1) with
    | some g => simp
    | none => simp

/-- An instruction is refused for a return without a call, a call too many or a stretch that leaves
memory. -/
lemma fault?_eq_some_iff :
    m.fault? i = some f ↔
      i.op = .ret ∧ m.stack = [] ∧ f = .returnAt m.pc ∨
      i.op = .call ∧ Layout.stackDepth ≤ m.stack.length ∧ f = .callAt m.pc ∨
      m.spanFault? i.spanLength = some f := by
  obtain ⟨op, opcode⟩ := i
  cases op with
  | ret =>
    rw [eq_comm (a := f) (b := .returnAt m.pc), stack, CallStack.pending_eq_nil_iff]
    simp [fault?, Instruction.spanLength, spanFault?]
  | call =>
    rw [eq_comm (a := f) (b := .callAt m.pc), stack, CallStack.length_pending]
    simp [fault?, Instruction.spanLength, spanFault?]
  | _ => simp [fault?]

/-- A call that is not refused finds a free cell on the stack. -/
lemma pointer_lt_of_call (accepted : m.fault? i = none) (call : i.op = .call) :
    m.calls.pointer < Layout.stackDepth := by
  apply Nat.lt_of_not_le
  intro full
  rw [fault?, call] at accepted
  exact Option.some_ne_none _ ((if_pos full).symm.trans accepted)

/-- A call that is not refused is put on top of the stack. -/
lemma stack_push_of_call (accepted : m.fault? i = none) (call : i.op = .call) (place : Word) :
    (m.calls.push place).pending = place :: m.stack :=
  CallStack.pending_push (pointer_lt_of_call accepted call) place

/-- A machine that wraps refuses returns and calls only. -/
lemma fault?_of_not_strict (wraps : m.options.strict = false) (notRet : i.op ≠ .ret)
    (notCall : i.op ≠ .call) :
    m.fault? i = none := by
  rw [Option.eq_none_iff_forall_ne_some]
  intro f h
  rcases fault?_eq_some_iff.1 h with ⟨ret, _⟩ | ⟨call, _⟩ | span
  · exact notRet ret
  · exact notCall call
  · rw [spanFault?_of_not_strict _ wraps] at span
    cases span

/-- An instruction that is neither a return nor a call and goes to no memory is not refused. -/
lemma fault?_of_spanLength (notRet : i.op ≠ .ret) (notCall : i.op ≠ .call)
    (none : i.spanLength = 0) :
    m.fault? i = .none := by
  rw [Option.eq_none_iff_forall_ne_some]
  intro f h
  rcases fault?_eq_some_iff.1 h with ⟨ret, _⟩ | ⟨call, _⟩ | span
  · exact notRet ret
  · exact notCall call
  · obtain ⟨_, pos, _⟩ := spanFault?_eq_some_iff.1 span
    exact Nat.ne_of_gt pos none

/-- An instruction that is executed has its effect. -/
lemma execute_eq_ok_iff : m.execute i = .ok m' ↔ m.fault? i = none ∧ m' = m.effect i := by
  rw [execute]
  cases m.fault? i with
  | none => simp [eq_comm]
  | some f => simp

end Chip8.Machine
