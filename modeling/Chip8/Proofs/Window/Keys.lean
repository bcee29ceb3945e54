import Chip8.Proofs.Machine.Keys
import Chip8.Proofs.Window.Step

/-!
# Keys of a machine in a window

A machine in a window is driven by its host and gets keys from the keyboard, in any order.
`keyEvents` lists what happens to a key of the keypad in the course of such inputs; the latest of it
decides whether the key is down (`isDown_acceptAll`). `key_protocol` adds what steps, waiting, and
keys that are none do.
-/

namespace Chip8

/-- Something done to a machine in a window, by its host or at the keyboard. -/
inductive Input where
  | operation (operation : Operation)
  | keyDown (symbol : Int)
  | keyUp (symbol : Int)

/-- What an input does to a key of the keypad. -/
def Input.keyEvent? (m : Machine) (k : Nibble) : Input → Option KeyEvent
  | operation o => Moment.keyEvent? k ⟨m, o⟩
  | keyDown symbol => if Keyboard.key? symbol = some k then some .pressed else none
  | keyUp symbol => if Keyboard.key? symbol = some k then some .released else none

namespace Window

variable {w : Window} {k : Nibble}

/-- The window after an input. -/
def accept (w : Window) : Input → Window
  | .operation o => w.withMachine (w.machine.perform o).1
  | .keyDown symbol => (w.handle (.keyPress symbol)).1
  | .keyUp symbol => (w.handle (.keyRelease symbol)).1

/-- The window after inputs in turn. -/
def acceptAll (w : Window) (inputs : List Input) : Window := inputs.foldl accept w

/-- What happens to a key of the keypad in the course of inputs, in order. -/
def keyEvents (w : Window) (k : Nibble) : List Input → List KeyEvent
  | [] => []
  | input :: inputs => (input.keyEvent? w.machine k).toList ++ (w.accept input).keyEvents k inputs

/-- What an input does to a key decides whether the key is down; if it does nothing, the key stays
as it was. -/
lemma isDown_accept (w : Window) (input : Input) (k : Nibble) :
    (w.accept input).machine.isDown k =
      ((input.keyEvent? w.machine k).map (· == .pressed)).getD (w.machine.isDown k) := by
  cases input with
  | operation o => exact w.machine.isDown_perform o k
  | keyDown symbol =>
    have rule := w.handlesTo_handle (.keyPress symbol)
    rw [accept, Input.keyEvent?]
    generalize w.handle (.keyPress symbol) = result at rule ⊢
    cases rule with
    -- Neither the key that closes the window nor the one that toggles logging stands for a key of
    -- the keypad.
    | escaped => rfl
    | toggled => rfl
    | @pressed _ k' _ _ key =>
      show (w.machine.setDown k' true).isDown k = _
      rw [Machine.isDown_setDown, key]
      by_cases same : k = k'
      · simp [same]
      · simp [same, Ne.symm same]
    | pressedOther _ _ other =>
      rw [other]
      rfl
  | keyUp symbol =>
    have rule := w.handlesTo_handle (.keyRelease symbol)
    rw [accept, Input.keyEvent?]
    generalize w.handle (.keyRelease symbol) = result at rule ⊢
    cases rule with
    | @released _ k' key =>
      show (w.machine.setDown k' false).isDown k = _
      rw [Machine.isDown_setDown, key]
      by_cases same : k = k'
      · simp [same]
      · simp [same, Ne.symm same]
    | releasedOther other =>
      rw [other]
      rfl

/-- The latest of what happened to a key decides whether it is down. -/
lemma isDown_acceptAll (w : Window) (inputs : List Input) (k : Nibble) :
    (w.acceptAll inputs).machine.isDown k =
      ((w.keyEvents k inputs).getLast?.map (· == .pressed)).getD (w.machine.isDown k) := by
  induction inputs generalizing w with
  | nil => rfl
  | cons input inputs ih =>
    have first := w.isDown_accept input k
    rw [acceptAll, List.foldl_cons, ← acceptAll, ih, keyEvents, List.getLast?_append, first]
    cases ((w.accept input).keyEvents k inputs).getLast? with
    | some later => rfl
    | none =>
      cases input.keyEvent? w.machine k with
      | some event => rfl
      | none => rfl

/-- The protocol of the keys. Whatever the order of inputs to a machine in a window, a key is down
at the end exactly if what happened to it last is a press, or nothing happened to it and it was down
before; on a new machine no key is down. A step presses no key and releases the one key at most that
is consumed in it. The instruction that asks for a key skips exactly if the key is up, and the one
that waits puts the number of the key it consumes into its register. While no key is down, any
number of steps at it change the timers, the count of steps and the log alone. Values that are no
integer from 0 to 15, and keys of the keyboard outside the block, touch no key. A value stands for
the key of the integer that it is, exactly unless it is a truth value: true moves all the keys at
once, and false moves none. -/
theorem key_protocol (w : Window) (v : Value) :
    (∀ (inputs : List Input) (k : Nibble),
      (w.acceptAll inputs).machine.isDown k = true ↔
        (w.keyEvents k inputs).getLast? = some .pressed ∨
          w.keyEvents k inputs = [] ∧ w.machine.isDown k = true) ∧
    (∀ (options : Options) (logging : Bool) (random : Source Byte) (k : Nibble),
      (Machine.fresh options logging random).isDown k = false) ∧
    (∀ m : Machine,
      (∀ k, m.step.1.isDown k = true ↔ m.isDown k = true ∧ Moment.consumed? ⟨m, .step⟩ ≠ some k) ∧
      (∀ k, Moment.consumed? ⟨m, .step⟩ = some k ↔
        ∃ i, Moment.executed ⟨m, .step⟩ = some i ∧ m.Consumes i k) ∧
      ∀ i, Moment.executed ⟨m, .step⟩ = some i →
        (i.op = .skipNoKey →
          m.step.1.pc = (m.pc + if m.isDown ((m.v i.x).extractLsb' 0 4) then 2 else 4) &&&
            0xFFF#16) ∧
        (i.op = .waitKey → ∀ k, m.Consumes i k → m.step.1.v i.x = k.zeroExtend 8)) ∧
    (∀ (m : Machine) (i : Instruction), m.fetch = .ok i → i.op = .waitKey →
      (∀ k, m.isDown k = false) →
      ∀ count, ∃ delay sound log, m.steps count =
        ({ m with
          delayTimer := delay, soundTimer := sound, log := log, cycles := m.cycles + count },
        none)) ∧
    ((∀ n, v.toInt? = some n → ¬ (0 ≤ n ∧ n < 16)) →
      ∀ m : Machine, (m.perform (.pressKey v)).1 = m ∧ (m.perform (.releaseKey v)).1 = m) ∧
    ((∀ k : Nibble, v.standsFor k = true ↔ v.toInt? = some (k.toNat : Int)) ↔ ∀ b, v ≠ .bool b) ∧
    (∀ m : Machine,
      (∀ k, (m.perform (.pressKey (.bool true))).1.isDown k = true ∧
        (m.perform (.releaseKey (.bool true))).1.isDown k = false) ∧
      (m.perform (.pressKey (.bool false))).1 = m ∧ (m.perform (.releaseKey (.bool false))).1 = m) ∧
    ∀ symbol : Int, Keyboard.key? symbol = none →
      ∀ k, (w.accept (.keyDown symbol)).machine.isDown k = w.machine.isDown k ∧
        (w.accept (.keyUp symbol)).machine.isDown k = w.machine.isDown k := by
  refine ⟨?_, ?_, ?_, ?_, ?_, ?_, ?_, ?_⟩
  · intro inputs k
    rw [isDown_acceptAll]
    cases latest : (w.keyEvents k inputs).getLast? with
    | none =>
      rw [List.getLast?_eq_none_iff] at latest
      simp [latest]
    | some event =>
      have some : w.keyEvents k inputs ≠ [] := by
        intro none
        rw [none] at latest
        cases latest
      simp [some]
  · intro options logging random k
    exact Machine.isDown_fresh options logging random
  · intro m
    refine ⟨?_, ?_, ?_⟩
    · intro k
      rw [Machine.isDown_step, Bool.and_eq_true, bne_iff_ne]
    · intro k
      exact Machine.consumed?_step_eq_some_iff
    · intro i executed
      exact ⟨Machine.pc_step_of_asking executed, fun waits _ =>
        Machine.v_step_of_awaited executed waits⟩
  · intro m i fetched waits up
    exact Machine.steps_of_waiting fetched waits up
  · intro outside m
    refine ⟨?_, ?_⟩
    · rw [Machine.perform, Machine.moveKey_of_outside outside]
    · rw [Machine.perform, Machine.moveKey_of_outside outside]
  · exact Machine.standsFor_iff
  · intro m
    refine ⟨fun k => ⟨?_, ?_⟩, rfl, rfl⟩
    · exact Machine.isDown_moveKey (.bool true) true
    · exact Machine.isDown_moveKey (.bool true) false
  · intro symbol outside k
    refine ⟨?_, ?_⟩
    · rw [isDown_accept, Input.keyEvent?, outside]
      rfl
    · rw [isDown_accept, Input.keyEvent?, outside]
      rfl

/-- True is the integer 1 and false the integer 0, but on a new machine pressing true puts key 0
down, and releasing false leaves key 0 down. -/
theorem truth_values_no_numbers :
    let m := Machine.fresh ⟨.bit, false, true⟩ false (.cycle 0 [])
    (Value.bool true).toInt? = some 1 ∧ (m.perform (.pressKey (.bool true))).1.isDown 0 = true ∧
    (Value.bool false).toInt? = some 0 ∧
      ((m.perform (.pressKey (.int 0))).1.perform (.releaseKey (.bool false))).1.isDown 0 =
        true := by
  decide +kernel

/-- A machine that waits for a key and then asks for it. Of the keys 5 and 4, one pressed at the
keyboard and one by the host, the lower is consumed, and its number is the one asked for: down
again, it is consumed without a skip. -/
theorem lower_key_taken :
    let m : Machine := ((Machine.fresh ⟨.bit, false, true⟩ false (.cycle 0 [])).performAll
      [.load (.bytes [0xF3, 0x0A, 0xE3, 0xA1])]).1
    let w : Window := base ⟨m, .whole 600, rfl, 10, false, none, rfl⟩ 640 320 (.cycle 0 [])
    let both := (w.acceptAll [.keyDown 119, .operation (.pressKey (.int 4))]).machine
    let again := (both.step.1.perform (.pressKey (.int 4))).1
    (∃ delay sound log, m.steps 1000 =
      ({ m with delayTimer := delay, soundTimer := sound, log := log, cycles := m.cycles + 1000 },
        none)) ∧
    both.step.1.isDown 5 = true ∧ both.step.1.isDown 4 = false ∧ both.step.1.v 3 = 4 ∧
    again.step.1.isDown 4 = false ∧ again.step.1.pc = (again.pc + 2) &&& 0xFFF#16 ∧
    (w.acceptAll [.keyDown 119, .operation .step, .keyUp 119, .keyDown 119]).machine.isDown 5 =
      true ∧
    (m.perform (.pressKey (.int 16))).1 = m ∧
    (w.accept (.keyDown 32)).machine.isDown 4 = w.machine.isDown 4 := by
  intro m w both again
  obtain ⟨runs, _, steps, waiting, noValue, _, _, noSymbol⟩ := key_protocol w (.int 16)
  have waits : Moment.executed ⟨both, .step⟩ = some (.decode 0xF30A) :=
    Machine.executed_of_not_strict (by decide +kernel) (by decide +kernel) (by decide +kernel)
  have asks : Moment.executed ⟨again, .step⟩ = some (.decode 0xE3A1) :=
    Machine.executed_of_not_strict (by decide +kernel) (by decide +kernel) (by decide +kernel)
  have taken : both.Consumes (.decode 0xF30A) 4 :=
    Machine.consumed?_eq_some_iff.1 (by decide +kernel)
  have takenAgain : again.Consumes (.decode 0xE3A1) 4 :=
    Machine.consumed?_eq_some_iff.1 (by decide +kernel)
  obtain ⟨down, consumed, results⟩ := steps both
  obtain ⟨downAgain, consumedAgain, resultsAgain⟩ := steps again
  have fetched : m.fetch = .ok (.decode 0xF30A) :=
    Machine.fetch_of_not_strict (by decide +kernel) (by decide +kernel)
  refine ⟨?_, ?_, ?_, ?_, ?_, ?_, ?_, ?_, ?_⟩
  · exact waiting m _ fetched rfl (by decide +kernel) 1000
  · rw [down, (consumed 4).2 ⟨_, waits, taken⟩]
    decide +kernel
  · rw [← Bool.not_eq_true, down, (consumed 4).2 ⟨_, waits, taken⟩]
    exact fun kept => kept.2 rfl
  · exact (results _ waits).2 rfl 4 taken
  · rw [← Bool.not_eq_true, downAgain, (consumedAgain 4).2 ⟨_, asks, takenAgain⟩]
    exact fun kept => kept.2 rfl
  · rw [(resultsAgain _ asks).1 rfl]
    decide +kernel
  · exact (runs _ _).2 (.inl (by decide +kernel))
  · exact (noValue (by rintro n ⟨⟩; decide) m).1
  · exact (noSymbol 32 (by decide) 4).1

end Window

end Chip8
