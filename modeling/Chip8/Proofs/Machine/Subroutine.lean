import Mathlib.Data.List.Infix
import Chip8.Proofs.Machine.Moment

/-!
# Subroutines

Calls and returns match like brackets. As long as a run has not come back to the depth of a call,
the stack ends in the place of the call and the callers before it (`suffix_performAll`); the moment
that brings it back is a return, and the program goes on behind the call (`suffix_perform`). The
depth of the stack is the number of calls less the number of returns since the latest reset. Both
are `calls_match_returns`.
-/

namespace Chip8.Machine

open Moment

variable {m : Machine} {i : Instruction} {operation : Operation} {caller : Word}
  {callers : List Word}

/-! ## One moment -/

/-- An instruction that is executed moves the stack as its kind tells. -/
lemma stack_perform_of_executed (executes : executed ⟨m, operation⟩ = some i) :
    (m.perform operation).1.stack = (m.nextCalls i).pending := by
  obtain ⟨_, result⟩ := perform_of_executed executes
  rw [result, finishStep_eq, effect_eq, note_eq]
  rfl

/-- Where no instruction is executed the stack stays. -/
lemma stack_perform_of_idle (idle : executed ⟨m, operation⟩ = none)
    (notReset : operation ≠ .reset) :
    (m.perform operation).1.stack = m.stack := by
  rw [perform_of_executed_eq_none idle notReset]
  rfl

/-- A call puts its place on top of the stack. -/
lemma stack_perform_of_call (call : executes .call ⟨m, operation⟩ = true) :
    (m.perform operation).1.stack = m.pc :: m.stack := by
  obtain ⟨i, executed, op⟩ := executes_iff.1 call
  obtain ⟨accepted, _⟩ := perform_of_executed executed
  rw [stack_perform_of_executed executed, nextCalls, op]
  exact stack_push_of_call accepted op m.pc

/-- A return takes the latest caller off the stack and goes on behind its call. -/
lemma perform_of_ret (ret : executes .ret ⟨m, operation⟩ = true)
    (stack : m.stack = caller :: callers) :
    (m.perform operation).1.stack = callers ∧ (m.perform operation).1.pc =
      (caller + 2) &&& 0xFFF#16 := by
  obtain ⟨i, executed, op⟩ := executes_iff.1 ret
  rw [stack_perform_of_executed executed, pc_perform_of_executed executed, nextCalls, successor, op,
    stack]
  refine ⟨?_, rfl⟩
  calc m.calls.pop.pending
      = m.stack.tail := m.calls.pending_pop
    _ = callers := by rw [stack, List.tail_cons]

/-- A return finds a caller on the stack. -/
lemma exists_caller_of_ret (ret : executes .ret ⟨m, operation⟩ = true) :
    ∃ caller callers, m.stack = caller :: callers := by
  obtain ⟨i, executed, op⟩ := executes_iff.1 ret
  obtain ⟨accepted, _⟩ := perform_of_executed executed
  exact List.exists_cons_of_ne_nil (stack_ne_nil_of_ret accepted op)

/-- Nothing but calls, returns and resets moves the stack. -/
lemma stack_perform_of_other (notCall : executes .call ⟨m, operation⟩ = false)
    (notRet : executes .ret ⟨m, operation⟩ = false) (notReset : operation ≠ .reset) :
    (m.perform operation).1.stack = m.stack := by
  cases executed : executed ⟨m, operation⟩ with
  | none => exact stack_perform_of_idle executed notReset
  | some i =>
    have noCall : i.op ≠ .call := by
      intro op
      rw [executes_iff.2 ⟨i, executed, op⟩] at notCall
      cases notCall
    have noRet : i.op ≠ .ret := by
      intro op
      rw [executes_iff.2 ⟨i, executed, op⟩] at notRet
      cases notRet
    rw [stack_perform_of_executed executed]
    simp only [nextCalls]
    rfl

/-- If the stack ends in a place and the callers before it, then so it does after a moment, unless
the moment is the return to that place. -/
lemma suffix_perform (inside : caller :: callers <:+ m.stack) (notReset : operation ≠ .reset) :
    caller :: callers <:+ (m.perform operation).1.stack ∨
      executes .ret ⟨m, operation⟩ = true ∧
        (m.perform operation).1.stack = callers ∧ (m.perform operation).1.pc =
          (caller + 2) &&& 0xFFF#16 := by
  cases call : executes .call ⟨m, operation⟩ with
  | true =>
    rw [stack_perform_of_call call]
    exact .inl (inside.trans (List.suffix_cons _ _))
  | false =>
    cases ret : executes .ret ⟨m, operation⟩ with
    | false =>
      rw [stack_perform_of_other call ret notReset]
      exact .inl inside
    | true =>
      obtain ⟨latest, others, stack⟩ := exists_caller_of_ret ret
      obtain ⟨popped, returned⟩ := perform_of_ret ret stack
      -- The place is either the caller that the return takes off, or it lies below and stays.
      rw [stack, List.suffix_cons_iff] at inside
      rcases inside with same | deeper
      · cases same
        exact .inr ⟨rfl, popped, returned⟩
      · rw [popped]
        exact .inl deeper

/-- A moment that is no reset moves the depth of the stack by its call or its return. -/
lemma length_stack_perform (notReset : operation ≠ .reset) :
    (m.perform operation).1.stack.length + (if executes .ret ⟨m, operation⟩ then 1 else 0) =
      m.stack.length + if executes .call ⟨m, operation⟩ then 1 else 0 := by
  cases call : executes .call ⟨m, operation⟩ with
  | true =>
    have notRet : executes .ret ⟨m, operation⟩ = false := by
      rw [← Bool.not_eq_true]
      intro ret
      obtain ⟨i, executed, isCall⟩ := executes_iff.1 call
      obtain ⟨j, same, isRet⟩ := executes_iff.1 ret
      rw [executed] at same
      cases same
      rw [isCall] at isRet
      cases isRet
    rw [stack_perform_of_call call, notRet]
    rfl
  | false =>
    cases ret : executes .ret ⟨m, operation⟩ with
    | false => rw [stack_perform_of_other call ret notReset]
    | true =>
      obtain ⟨latest, others, stack⟩ := exists_caller_of_ret ret
      rw [(perform_of_ret ret stack).1, stack]
      rfl

/-! ## Runs -/

/-- As long as a run has not come back to the depth of the callers, the stack ends in what was on
top of them. -/
lemma suffix_performAll {operations : List Operation} (inside : caller :: callers <:+ m.stack)
    (noReset : ∀ operation ∈ operations, operation ≠ .reset)
    (away : ∀ earlier, earlier <+: operations → (m.performAll earlier).1.stack.length ≠
      callers.length) :
    caller :: callers <:+ (m.performAll operations).1.stack := by
  -- Induction from the end of the run: every shorter run is away from the callers as well.
  induction operations using List.reverseRecOn with
  | nil => exact inside
  | append_singleton operations operation ih =>
    have before := ih (fun o member => noReset o (List.mem_append_left _ member))
      (fun earlier part => away earlier (part.trans (List.prefix_append _ _)))
    have last := noReset operation (List.mem_append_right _ (List.mem_singleton_self _))
    have result : (m.performAll (operations ++ [operation])).1 =
        ((m.performAll operations).1.perform operation).1 := by rw [performAll_append]; rfl
    rcases suffix_perform before last with stays | ⟨_, back, _⟩
    · rw [result]
      exact stays
    · have depth := away _ List.prefix_rfl
      rw [result, back] at depth
      exact absurd rfl depth

/-- One more moment keeps the depth of the stack the calls less the returns since the latest
reset. -/
lemma balanced_perform {past : List Moment}
    (balanced : m.stack.length + (sinceReset past).countP (executes .ret) =
      (sinceReset past).countP (executes .call)) (operation : Operation) :
    (m.perform operation).1.stack.length + (sinceReset (past ++ [⟨m, operation⟩])).countP
      (executes .ret) =
      (sinceReset (past ++ [⟨m, operation⟩])).countP (executes .call) := by
  rw [sinceReset_concat]
  by_cases reset : operation = .reset
  · subst reset
    rfl
  · have moved := length_stack_perform (m := m) reset
    rw [Operation.isReset_of_ne reset, if_neg Bool.false_ne_true, List.countP_append,
      List.countP_append, List.countP_singleton, List.countP_singleton]
    omega

/-- Calls and returns match. After a call, until a run without a reset first comes back to the depth
of the call, it is deeper, and the stack still ends in the place of the call and what was there
before; what brings it back is a return that is done, and the program goes on behind the call. In
every run of a new machine the depth of the stack and the returns since the latest reset make up the
calls. -/
theorem calls_match_returns :
    (∀ m, executes .call ⟨m, .step⟩ = true →
      ∀ operations, (∀ operation ∈ operations, operation ≠ .reset) →
        (∀ earlier, earlier <+: operations → (m.step.1.performAll earlier).1.stack.length ≠
          m.stack.length) →
        let m' := (m.step.1.performAll operations).1
        m.stack.length < m'.stack.length ∧ m.pc :: m.stack <:+ m'.stack ∧
          ∀ operation, operation ≠ .reset → (m'.perform operation).1.stack.length = m.stack.length →
            executes .ret ⟨m', operation⟩ = true ∧ (m'.perform operation).1.pc =
              (m.pc + 2) &&& 0xFFF#16) ∧
    ∀ options logging random operations,
      let m := fresh options logging random
      let past := sinceReset (m.moments operations)
      (m.performAll operations).1.stack.length + past.countP (executes .ret) =
        past.countP (executes .call) := by
  constructor
  · intro m call operations noReset away m'
    have stack := stack_perform_of_call call
    rw [perform_step] at stack
    have inside : m.pc :: m.stack <:+ m'.stack :=
      suffix_performAll (stack ▸ List.suffix_rfl) noReset away
    refine ⟨inside.length_le, inside, ?_⟩
    intro operation notReset back
    rcases suffix_perform inside notReset with stays | ⟨ret, _, returned⟩
    · have above : m.stack.length < (m'.perform operation).1.stack.length := stays.length_le
      exact absurd back.symm (Nat.ne_of_lt above)
    · exact ⟨ret, returned⟩
  · intro options logging random operations
    exact moments_induction (P := fun past m =>
      m.stack.length + (sinceReset past).countP (executes .ret) =
        (sinceReset past).countP (executes .call))
      rfl (fun _ _ operation balanced => balanced_perform balanced operation) operations

/-- A subroutine calls another one, which returns, while a key goes down. What then brings the stack
back to its depth before the first call is a return behind that call. -/
theorem nested_call_returns :
    let m : Machine := ((fresh ⟨.bit, false, true⟩ false (.cycle 0 [])).performAll
      [.load (.bytes [0x22, 0x04, 0x12, 0x02, 0x22, 0x08, 0x00, 0xEE, 0x00, 0xEE])]).1
    let operations : List Operation := [.step, .pressKey (.int 5), .step]
    let m' := (m.step.1.performAll operations).1
    m.stack.length < m'.stack.length ∧ m.pc :: m.stack <:+ m'.stack ∧
      executes .ret ⟨m', .step⟩ = true ∧ (m'.perform .step).1.pc = 0x202 := by
  intro m operations m'
  have call : executes .call ⟨m, .step⟩ = true := by decide +kernel
  have noReset : ∀ operation ∈ operations, operation ≠ .reset := by simp [operations]
  have away : ∀ earlier, earlier <+: operations →
      (m.step.1.performAll earlier).1.stack.length ≠ m.stack.length := by
    intro earlier part
    have all : ∀ earlier ∈ operations.inits, (m.step.1.performAll earlier).1.stack.length ≠
        m.stack.length := by
      decide +kernel
    exact all earlier ((List.mem_inits _ _).2 part)
  obtain ⟨deeper, inside, returns⟩ := calls_match_returns.1 m call operations noReset away
  have back : (m'.perform .step).1.stack.length = m.stack.length := by decide +kernel
  obtain ⟨ret, returned⟩ := returns .step nofun back
  refine ⟨deeper, inside, ret, returned.trans ?_⟩
  decide +kernel

end Chip8.Machine
