import Mathlib.Data.List.DropRight
import Chip8.Proofs.Machine.Failure
import Chip8.Proofs.Machine.Frame
import Chip8.Proofs.Machine.Rest

/-!
# Moments

The moments of a run are the machines it goes through, each with the operation that is performed on
it next. A moment tells which instruction is executed in it, which the answers of a history do not.
`moments_induction` is the induction over the moments of a run; what a moment does in which no
instruction is executed is `perform_of_executed_eq_none`.
-/

namespace Chip8

/-- A machine and what is done to it. -/
structure Moment where
  machine : Machine
  operation : Operation

namespace Moment

/-- The instruction that is executed, if the operation is a step and the step is done. -/
def executed (moment : Moment) : Option Instruction :=
  match moment.operation with
  | .step => if moment.machine.step.2.isNone then moment.machine.fetch.toOption else none
  | _ => none

/-- Whether an instruction of a kind is executed. -/
def executes (op : Op) (moment : Moment) : Bool := moment.executed.any (·.op == op)

/-- An instruction of a kind is executed if the instruction that is executed is of that kind. -/
lemma executes_iff {op : Op} {moment : Moment} :
    moment.executes op = true ↔ ∃ i, moment.executed = some i ∧ i.op = op := by
  rw [executes]
  cases moment.executed with
  | none => simp
  | some i => simp

/-- The moments after the latest reset, or all of them if there was none. -/
def sinceReset (past : List Moment) : List Moment :=
  past.rtakeWhile fun moment => !moment.operation.isReset

/-- A reset starts a new part of a run, any other operation goes on with the latest one. -/
lemma sinceReset_concat (past : List Moment) (moment : Moment) :
    sinceReset (past ++ [moment]) = if moment.operation.isReset then [] else sinceReset past ++
      [moment] := by
  rw [sinceReset, List.rtakeWhile_concat]
  cases moment.operation.isReset with
  | true => rfl
  | false => rfl

end Moment

namespace Machine

open Moment

variable {m : Machine} {i : Instruction} {operation : Operation}

/-- The moments of a run. -/
def moments (m : Machine) : List Operation → List Moment
  | [] => []
  | operation :: operations => ⟨m, operation⟩ :: (m.perform operation).1.moments operations

/-- One more operation makes a run longer by a moment. -/
lemma moments_concat (m : Machine) (operations : List Operation) (operation : Operation) :
    m.moments (operations ++ [operation]) = m.moments operations ++
      [⟨(m.performAll operations).1, operation⟩] := by
  induction operations generalizing m with
  | nil => rfl
  | cons first operations ih =>
    have rest := ih (m.perform first).1
    simp only [List.cons_append, moments, performAll, rest]

/-- What holds before the first moment and is kept by each further one holds after every run. -/
theorem moments_induction {P : List Moment → Machine → Prop} (start : P [] m)
    (next : ∀ past m operation, P past m → P (past ++ [⟨m, operation⟩]) (m.perform operation).1)
    (operations : List Operation) : P (m.moments operations) (m.performAll operations).1 := by
  induction operations using List.reverseRecOn with
  | nil => exact start
  | append_singleton operations operation ih =>
    rw [moments_concat, performAll_append]
    exact next _ _ _ ih

/-- An instruction is executed in a step that is done. -/
lemma executed_eq_some_iff :
    executed ⟨m, operation⟩ = some i ↔ operation = .step ∧ m.step.2 = none ∧ m.fetch = .ok i := by
  cases operation with
  | step =>
    rw [executed]
    cases m.step.2 with
    | some f => simp
    | none =>
      cases m.fetch with
      | error f => simp [Except.toOption]
      | ok j => simp [Except.toOption]
  | _ => simp [executed]

/-- In a step that is done an instruction is executed. -/
lemma exists_executed_of_done (done : m.step.2 = none) : ∃ i, executed ⟨m, .step⟩ = some i := by
  obtain ⟨i, fetched, _⟩ := exists_fetch_of_done done
  exact ⟨i, executed_eq_some_iff.2 ⟨rfl, done, fetched⟩⟩

/-- A machine that wraps executes the instruction of the word at the program counter, if its step is
done. -/
lemma executed_of_not_strict {word : Word} (wraps : m.options.strict = false)
    (here : m.opcode = word) (done : m.step.2 = none) : executed ⟨m, .step⟩ = some (.decode word) :=
  executed_eq_some_iff.2 ⟨rfl, done, fetch_of_not_strict wraps here⟩

/-- An instruction that is executed is not refused, and the machine afterwards is that of a step
that is done. -/
lemma perform_of_executed (executes : executed ⟨m, operation⟩ = some i) :
    m.fault? i = none ∧ (m.perform operation).1 =
      ((m.note (.trace m.pc i)).effect i).finishStep := by
  obtain ⟨rfl, done, fetched⟩ := executed_eq_some_iff.1 executes
  obtain ⟨j, same, accepted, result⟩ := exists_fetch_of_done done
  rw [fetched] at same
  cases same
  rw [perform_step]
  exact ⟨accepted, result⟩

/-- An instruction that is executed decides where the program goes on. -/
lemma pc_perform_of_executed (executes : executed ⟨m, operation⟩ = some i) :
    (m.perform operation).1.pc = m.successor i := by
  obtain ⟨_, result⟩ := perform_of_executed executes
  rw [result, finishStep_eq, effect_eq, note_eq]
  rfl

/-- It decides what the registers hold. -/
lemma v_perform_of_executed (executes : executed ⟨m, operation⟩ = some i) (r : Nibble) :
    (m.perform operation).1.v r = (m.effect i).v r := by
  obtain ⟨_, result⟩ := perform_of_executed executes
  have same := effect_withRest (m.misses_log i (m.logged (.trace m.pc i)))
  rw [result, finishStep_eq, note_eq]
  exact congrArg (fun after => after.v r) same

/-- A moment in which no instruction is executed, and which is no reset, leaves the program counter,
the stack, the registers, the screen, the counters, the random source and the options alone. -/
lemma perform_of_executed_eq_none (idle : executed ⟨m, operation⟩ = none)
    (notReset : operation ≠ .reset) :
    (m.perform operation).1 =
      { m with
        memory := (m.perform operation).1.memory
        delayTimer := (m.perform operation).1.delayTimer
        soundTimer := (m.perform operation).1.soundTimer
        keys := (m.perform operation).1.keys
        redraw := (m.perform operation).1.redraw
        logging := (m.perform operation).1.logging
        log := (m.perform operation).1.log } := by
  by_cases step : operation = .step
  · subst step
    -- A step in which nothing is executed has failed, so it has touched the log alone.
    cases stopped : m.step.2 with
    | none =>
      obtain ⟨i, some⟩ := exists_executed_of_done stopped
      rw [idle] at some
      cases some
    | some f =>
      obtain ⟨log, result⟩ := step_of_fails stopped
      rw [perform_step, result]
  · exact perform_eq step notReset

end Machine

end Chip8
