import Chip8.Proofs.Machine.Keys

/-!
# Timers

Two instructions set a timer, one each; both timers count down together, in steps that are done if
they belong to the machine, and whenever the host ticks them. What one moment of a run does to a
timer is `timer_perform`: first it may be set, then it may count down. `CountsDown` is what follows
for a whole run: a timer holds what it was set to last, less the moments that have counted down from
that one on.
-/

namespace Chip8

/-- The two timers of a machine. -/
inductive Timer where
  | delay
  | sound
deriving DecidableEq, Repr

/-- The kind of instruction that sets a timer. -/
def Timer.setter : Timer → Op
  | delay => .setDelay
  | sound => .setSound

/-- What a timer holds. -/
def Machine.timer (m : Machine) : Timer → Byte
  | .delay => m.delayTimer
  | .sound => m.soundTimer

namespace Moment

/-- What a timer is set to in a moment, if an instruction that sets it is executed. -/
def setting? (t : Timer) (moment : Moment) : Option Byte :=
  (moment.executed.filter (·.op == t.setter)).map fun i => moment.machine.v i.x

/-- Whether the timers count down in a moment, in a machine that owns them or not. -/
def countsDown (own : Bool) (moment : Moment) : Bool :=
  match moment.operation with
  | .step => own && moment.executed.isSome
  | .tickTimers => true
  | _ => false

end Moment

namespace Machine

open Moment

variable {m : Machine} {i : Instruction} {operation : Operation} {t : Timer} {own : Bool}

/-! ## One moment -/

/-- A tick takes one off a timer, down to zero. -/
lemma timer_tickTimers (m : Machine) (t : Timer) :
    (m.tickTimers.timer t).toNat = (m.timer t).toNat - 1 := by
  have lower (b : Byte) : (if b = 0 then 0 else b - 1).toNat = b.toNat - 1 := by
    split
    · next zero =>
      rw [zero]
      rfl
    · next pos => bv_omega
  cases t with
  | delay => exact lower m.delayTimer
  | sound => exact lower m.soundTimer

/-- Only the instruction that sets a timer touches it. -/
lemma timer_effect (m : Machine) (i : Instruction) (t : Timer) :
    (m.effect i).timer t = if i.op = t.setter then m.v i.x else m.timer t := by
  rw [effect_eq]
  cases t with
  | delay => rfl
  | sound => rfl

/-- The end of a step takes one off if the machine ticks its timers itself. -/
lemma timer_finishStep (m : Machine) (t : Timer) :
    (m.finishStep.timer t).toNat = (m.timer t).toNat -
      if m.options.timersPerStep then 1 else 0 := by
  rw [finishStep]
  cases m.options.timersPerStep with
  | true => exact m.timer_tickTimers t
  | false => rfl

/-- A step that fails leaves the timers. -/
lemma timer_step_of_fails {f : Fault} (fails : m.step.2 = some f) (t : Timer) :
    m.step.1.timer t = m.timer t := by
  obtain ⟨log, result⟩ := step_of_fails fails
  rw [result]
  rfl

/-- In a moment a timer is set if an instruction that sets it is executed, and then counts down if
it is time. -/
lemma timer_perform (notReset : operation ≠ .reset) (t : Timer) :
    ((m.perform operation).1.timer t).toNat =
      ((setting? t ⟨m, operation⟩).getD (m.timer t)).toNat -
        if countsDown m.options.timersPerStep ⟨m, operation⟩ then 1 else 0 := by
  rw [setting?, countsDown]
  cases executes : executed ⟨m, operation⟩ with
  | some i =>
    obtain ⟨rfl, _⟩ := executed_eq_some_iff.1 executes
    obtain ⟨_, result⟩ := perform_of_executed executes
    have options : ((m.note (.trace m.pc i)).effect i).options = m.options := by
      rw [effect_eq, note_eq]
    rw [result, timer_finishStep, options, timer_effect, note_eq, Bool.and_comm]
    by_cases sets : i.op = t.setter
    · simp only [sets, if_true, Option.filter_some, beq_self_eq_true, Option.map_some,
        Option.getD_some]
      rfl
    · simp only [sets, if_false, Option.filter_some, beq_eq_false_iff_ne.2 sets, Bool.false_eq_true]
      rfl
  | none =>
    cases operation with
    | step =>
      cases stopped : m.step.2 with
      | some f =>
        rw [perform_step, timer_step_of_fails stopped]
        simp
      | none =>
        obtain ⟨i, some⟩ := exists_executed_of_done stopped
        cases executes.symm.trans some
    | tickTimers => exact m.timer_tickTimers t
    | load payload =>
      rw [perform_load_eq]
      rfl
    | reset => exact absurd rfl notReset
    | pressKey v | releaseKey v =>
      rw [perform, moveKey_eq]
      rfl
    | consumeRedraw | setLogging on => rfl

/-- An instruction that does not set a timer lets it count down. -/
lemma timer_step_of_executed (executes : executed ⟨m, .step⟩ = some i) (keeps : i.op ≠ t.setter) :
    (m.step.1.timer t).toNat = (m.timer t).toNat - if m.options.timersPerStep then 1 else 0 := by
  have now := timer_perform (m := m) (show Operation.step ≠ .reset by nofun) t
  rw [perform_step, setting?, countsDown, executes, Option.filter_some,
    beq_eq_false_iff_ne.2 keeps] at now
  simpa using now

/-! ## Runs -/

/-- What is known of a timer after a part of a run that began with a reset. -/
structure CountsDown (t : Timer) (own : Bool) (past : List Moment) (value : Byte) : Prop where
  /-- It holds what it was set to last, less one for each moment that has counted down since, that
  of the setting included, and it stops at zero. -/
  set {before after : List Moment} {moment : Moment} {v : Byte} :
    past = before ++ moment :: after →
    moment.setting? t = some v →
    (∀ later ∈ after, later.setting? t = none) →
    value.toNat = v.toNat - (moment :: after).countP (Moment.countsDown own)
  /-- If it was never set, it is at zero. -/
  unset :
    (∀ moment ∈ past, moment.setting? t = none) →
    value = 0

/-- After a reset a timer is at zero. -/
lemma CountsDown.of_reset (m : Machine) : CountsDown t own [] (m.reset.timer t) where
  set parts := absurd parts.symm (List.append_ne_nil_of_right_ne_nil _ (List.cons_ne_nil _ _))
  unset _ := by
    cases t with
    | delay => rfl
    | sound => rfl

/-- A reset stops the timers, and any other moment keeps what is known of them. -/
lemma CountsDown.perform {past : List Moment}
    (counts : CountsDown t own (sinceReset past) (m.timer t))
    (owner : m.options.timersPerStep = own) (operation : Operation) :
    CountsDown t own (sinceReset (past ++ [⟨m, operation⟩])) ((m.perform operation).1.timer t) := by
  by_cases reset : operation = .reset
  · subst reset
    have anew : sinceReset (past ++ [⟨m, .reset⟩]) = [] := sinceReset_concat past _
    rw [anew]
    exact .of_reset m
  · have now := timer_perform (m := m) reset t
    rw [owner] at now
    rw [sinceReset_concat, Operation.isReset_of_ne reset, if_neg Bool.false_ne_true]
    refine ⟨?_, ?_⟩
    · intro before after moment v parts sets others
      -- Either the timer is set in this moment, or it was set before and this moment is one more
      -- since.
      rcases List.eq_nil_or_concat' after with rfl | ⟨earlier, last, rfl⟩
      · obtain ⟨_, same⟩ := List.append_inj' parts rfl
        cases same
        rw [now, sets, List.countP_singleton]
        rfl
      · rw [← List.cons_append, ← List.append_assoc] at parts
        obtain ⟨known, same⟩ := List.append_inj' parts rfl
        cases same
        have kept := others _ (List.mem_append_right _ (List.mem_singleton_self _))
        have value := counts.set known sets fun later member =>
          others later (List.mem_append_left _ member)
        rw [now, kept, Option.getD_none, value, ← List.cons_append, List.countP_append,
          List.countP_singleton]
        exact Nat.sub_sub _ _ _
    · intro others
      have kept := others _ (List.mem_append_right _ (List.mem_singleton_self _))
      have zero := counts.unset fun moment member => others moment (List.mem_append_left _ member)
      rw [kept, Option.getD_none, zero] at now
      exact BitVec.eq_of_toNat_eq (now.trans (Nat.zero_sub _))

/-- The timers over a run, in closed form. Since the latest reset, a timer holds what it was set to
last, less the steps done from that one on, if the timers belong to the machine, and less the ticks
of the host, and it stops at zero. A step that fails is no time at which it counts down, one that
goes on waiting for a key is, and the value that is read is the one before the step counts down. -/
theorem timers_count_down :
    (∀ (m : Machine) (operations : List Operation) (t : Timer),
      CountsDown t m.options.timersPerStep (sinceReset (m.reset.moments operations))
        ((m.reset.performAll operations).1.timer t)) ∧
    (∀ (m : Machine) (own : Bool),
      (m.step.2 = none → countsDown own ⟨m, .step⟩ = own) ∧
      ∀ f, m.step.2 = some f → countsDown own ⟨m, .step⟩ = false ∧
      ∀ t, m.step.1.timer t = m.timer t) ∧
    (∀ (m : Machine) (i : Instruction), m.fetch = .ok i → i.op = .waitKey →
      (∀ k, m.isDown k = false) →
      m.step.2 = none ∧ m.step.1.pc = m.pc ∧
        ∀ t, (m.step.1.timer t).toNat = (m.timer t).toNat -
          if m.options.timersPerStep then 1 else 0) ∧
    ∀ (m : Machine) (i : Instruction), executed ⟨m, .step⟩ = some i → i.op = .readDelay →
      m.step.1.v i.x = m.delayTimer ∧
        m.step.1.delayTimer.toNat = m.delayTimer.toNat -
          if m.options.timersPerStep then 1 else 0 := by
  refine ⟨?_, ?_, ?_, ?_⟩
  · intro m operations t
    -- The options stay, so the timers belong to the machine at every moment or at none.
    refine (moments_induction (m := m.reset)
      (P := fun past m' => m'.options = m.options ∧
        CountsDown t m.options.timersPerStep (sinceReset past) (m'.timer t))
      ⟨rfl, .of_reset m⟩ ?_ operations).2
    intro past m' operation known
    obtain ⟨options, counts⟩ := known
    exact ⟨(m'.options_perform operation).trans options, counts.perform (by rw [options]) operation⟩
  · intro m own
    refine ⟨?_, ?_⟩
    · intro done
      obtain ⟨i, executes⟩ := exists_executed_of_done done
      rw [countsDown, executes]
      exact Bool.and_true own
    · intro f fails
      rw [countsDown, executed, fails]
      exact ⟨Bool.and_false own, timer_step_of_fails fails⟩
  · intro m i fetched waits up
    obtain ⟨delay, sound, log, result⟩ := step_of_waiting fetched waits up
    have done : m.step.2 = none := by rw [result]
    have pc : m.step.1.pc = m.pc := by rw [result]
    refine ⟨done, pc, ?_⟩
    intro t
    refine timer_step_of_executed (executed_eq_some_iff.2 ⟨rfl, done, fetched⟩) ?_
    rw [waits]
    cases t with
    | delay => decide
    | sound => decide
  · intro m i executes reads
    have value := v_perform_of_executed executes i.x
    rw [perform_step] at value
    refine ⟨?_, ?_⟩
    · rw [value, effect, reads]
      exact v_setV _ _
    · exact timer_step_of_executed (t := .delay) executes (by rw [reads]; decide)

/-- A machine with timers of its own sets the delay timer to 5, reads it, and waits for a key. The
step that sets it counts, so 4 is read; a step of waiting and a tick of the host later it is at 1,
and the sound timer is at zero. The return without a call that fails in another machine does not
count. -/
theorem set_then_read_then_wait :
    let operations : List Operation :=
      [.load (.bytes [0x60, 0x05, 0xF0, 0x15, 0xF1, 0x07, 0xF2, 0x0A]), .step, .step, .step, .step,
        .tickTimers]
    let new : Machine := fresh ⟨.bit, false, true⟩ false (.cycle 0 [])
    let m (count : Nat) : Machine := (new.reset.performAll (operations.take count)).1
    let m' : Machine := (new.reset.performAll operations).1
    let stuck : Machine := (new.performAll [.load (.bytes [0x00, 0xEE])]).1
    m'.timer .delay = 1 ∧ m'.timer .sound = 0 ∧
      (m 3).step.1.v 1 = 4 ∧ (m 3).step.1.delayTimer.toNat = 3 ∧
      (m 4).step.1.pc = (m 4).pc ∧ ((m 4).step.1.timer .delay).toNat = 2 ∧
      countsDown true ⟨stuck, .step⟩ = false ∧ countsDown true ⟨m 4, .step⟩ = true := by
  intro operations new m m' stuck
  obtain ⟨runs, steps, waiting, reading⟩ := timers_count_down
  let past : List Moment := new.reset.moments operations
  have whole : sinceReset past = past := List.rtakeWhile_eq_self_iff.2 (by decide +kernel)
  have parts : sinceReset past = past.take 2 ++ past[2] :: past.drop 3 := by
    rw [whole, ← List.drop_eq_getElem_cons, List.take_append_drop]
  obtain ⟨sets, kept, counted, silent⟩ : setting? .delay past[2] = some 5 ∧
      (∀ later ∈ past.drop 3, setting? .delay later = none) ∧
      (past[2] :: past.drop 3).countP (countsDown true) = 4 ∧
      ∀ moment ∈ past, setting? .sound moment = none := by
    decide +kernel
  have delay := (runs new operations .delay).set parts sets kept
  have sound := (runs new operations .sound).unset (by rw [whole]; exact silent)
  obtain ⟨options, reads, done, before⟩ :
      (m 3).options = ⟨.bit, false, true⟩ ∧ (m 3).opcode = 0xF107 ∧ (m 3).step.2 = none ∧
      (m 3).delayTimer = 4 := by
    decide +kernel
  obtain ⟨value, after⟩ := reading (m 3) _ (executed_of_not_strict (by rw [options]) reads done) rfl
  obtain ⟨options', waits, up, left⟩ : (m 4).options = ⟨.bit, false, true⟩ ∧ (m 4).opcode = 0xF20A ∧
      (∀ k, (m 4).isDown k = false) ∧ (m 4).timer .delay = 3 := by
    decide +kernel
  obtain ⟨done', stays, lower⟩ :=
    waiting (m 4) _ (fetch_of_not_strict (by rw [options']) waits) rfl up
  obtain ⟨f, fails⟩ : ∃ f, stuck.step.2 = some f := Option.isSome_iff_exists.1 (by decide +kernel)
  refine ⟨?_, sound, value.trans before, ?_, stays, ?_, ((steps stuck true).2 f fails).1,
    (steps (m 4) true).1 done'⟩
  · rw [show new.options.timersPerStep = true from rfl, counted] at delay
    exact BitVec.eq_of_toNat_eq delay
  · rw [after, options, before]
    rfl
  · rw [lower .delay, options', left]
    rfl

end Machine

end Chip8
