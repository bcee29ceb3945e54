import Mathlib.Data.List.Induction
import Chip8.Proofs.Machine.Rest

/-!
# Histories

A history is the list of operations that a machine has gone through, with the answer to each.
`history_induction` is the one induction over histories: a relation between a history and a machine
holds after every run if it holds at the start and each further operation keeps it. `Reachable`
machines are those that some history leads to.

What one operation does to the fields that only steps and resets change is `perform_eq`.
-/

namespace Chip8

/-- Whether an operation starts a machine anew. -/
def Operation.isReset : Operation → Bool
  | reset => true
  | _ => false

/-- Only a reset starts a machine anew. -/
lemma Operation.isReset_of_ne {operation : Operation} (notReset : operation ≠ .reset) :
    operation.isReset = false := by
  cases operation with
  | reset => exact absurd rfl notReset
  | _ => rfl

/-- The program of a payload, if the payload stands for bytes and they fit. -/
def Payload.accepted (payload : Payload) : Except LoadError Rom :=
  match payload.toRom with
  | .error e => .error (.payload e)
  | .ok rom =>
    if Layout.maxRomSize < rom.size then .error (.fault (.romTooLarge rom.size Layout.maxRomSize))
    else .ok rom

/-- Operations with their answers, in the order in which they were performed. -/
abbrev History := List (Operation × Answer)

namespace History

/-- What came after the latest reset, or everything if there was none. -/
def sinceReset (past : History) : History :=
  (past.reverse.takeWhile fun event => !event.1.isReset).reverse

/-- A reset starts a new part of a history, any other operation goes on with the latest one. -/
lemma sinceReset_concat (past : History) (operation : Operation) (answer : Answer) :
    sinceReset (past ++ [(operation, answer)]) =
      if operation.isReset then [] else sinceReset past ++ [(operation, answer)] := by
  rw [sinceReset, List.reverse_append, List.reverse_singleton, List.singleton_append,
    List.takeWhile_cons]
  cases operation.isReset with
  | true => rfl
  | false => exact List.reverse_cons

end History

namespace Machine

variable {m : Machine}

/-- What a machine goes through when it performs a list of operations. -/
def history (m : Machine) (operations : List Operation) : History :=
  operations.zip (m.performAll operations).2

/-- Operations may be performed in two parts. -/
lemma performAll_append (m : Machine) (first second : List Operation) :
    m.performAll (first ++ second) =
      (((m.performAll first).1.performAll second).1,
        (m.performAll first).2 ++ ((m.performAll first).1.performAll second).2) := by
  induction first generalizing m with
  | nil => rfl
  | cons operation first ih =>
    have rest := ih (m.perform operation).1
    simp only [List.cons_append, performAll, rest]

/-- Every operation has an answer. -/
lemma length_performAll (m : Machine) (operations : List Operation) :
    (m.performAll operations).2.length = operations.length := by
  induction operations generalizing m with
  | nil => rfl
  | cons operation operations ih =>
    have rest := ih (m.perform operation).1
    simp only [performAll, List.length_cons, rest]

/-- One more operation makes a history longer by its answer. -/
lemma history_concat (m : Machine) (operations : List Operation) (operation : Operation) :
    m.history (operations ++ [operation]) =
      m.history operations ++ [(operation, ((m.performAll operations).1.perform operation).2)] := by
  rw [history, performAll_append, List.zip_append (length_performAll m operations).symm]
  rfl

/-- What holds of an empty history and is kept by each further operation holds of every history. -/
theorem history_induction {P : History → Machine → Prop} (start : P [] m)
    (next : ∀ past m operation, P past m →
      P (past ++ [(operation, (m.perform operation).2)]) (m.perform operation).1)
    (operations : List Operation) : P (m.history operations) (m.performAll operations).1 := by
  induction operations using List.reverseRecOn with
  | nil => exact start
  | append_singleton operations operation ih =>
    rw [history_concat, performAll_append]
    exact next _ _ _ ih

/-- The machines that a new machine may become. -/
inductive Reachable : Machine → Prop where
  | fresh (options : Options) (logging : Bool) (random : Source Byte) :
    Reachable (fresh options logging random)
  | perform {m : Machine} (operation : Operation) :
    Reachable m →
    Reachable (m.perform operation).1
  | loadFile {m : Machine} (directory : Directory) (path : String) :
    Reachable m →
    Reachable (m.loadFile directory path).1

/-- What a machine becomes that may be reached may be reached as well. -/
lemma Reachable.performAll (reachable : m.Reachable) (operations : List Operation) :
    (m.performAll operations).1.Reachable := by
  induction operations generalizing m with
  | nil => exact reachable
  | cons operation operations ih => exact ih (.perform operation reachable)

/-- The answer to a step is its fault, if it has one. -/
lemma perform_step (m : Machine) :
    m.perform .step = (m.step.1, (m.step.2.map fun f => .refused (.fault f)).getD .done) := by
  rw [perform]
  split
  · next stopped => rw [stopped]; rfl
  · next done => rw [done]; rfl

/-- The machine with a program in memory and the size of the program in the log. -/
def withProgram (m : Machine) (rom : Rom) : Machine :=
  { m with
    memory := (m.writeFrom Layout.programStart rom.bytes).memory
    log := m.logged (.loaded rom.size) }

/-- Whether and what a machine loads does not depend on the machine. -/
lemma load_eq_map (m : Machine) (payload : Payload) :
    m.load payload = payload.accepted.map m.withProgram := by
  rw [load, Payload.accepted]
  cases payload.toRom with
  | error e => rfl
  | ok rom =>
    simp only [loadRom]
    split
    · rfl
    · rw [note_eq, writeFrom_eq]
      rfl

/-- Loading touches memory and the log. -/
lemma load_eq {payload : Payload} {m' : Machine} (loaded : m.load payload = .ok m') :
    m' = { m with memory := m'.memory, log := m'.log } := by
  rw [load_eq_map] at loaded
  cases accepted : payload.accepted with
  | error e =>
    rw [accepted] at loaded
    cases loaded
  | ok rom =>
    rw [accepted] at loaded
    cases loaded
    rfl

/-- So does the operation, whether it is refused or not. -/
lemma perform_load_eq (m : Machine) (payload : Payload) :
    (m.perform (.load payload)).1 =
      { m with
        memory := (m.perform (.load payload)).1.memory
        log := (m.perform (.load payload)).1.log } := by
  rw [perform]
  cases loaded : m.load payload with
  | error e => rfl
  | ok m' => exact load_eq loaded

/-- Moving keys touches the keys alone. -/
lemma moveKey_eq (m : Machine) (v : Value) (down : Bool) :
    (m.moveKey v down).1 = { m with keys := (m.moveKey v down).1.keys } := by
  rw [moveKey]
  cases keys? v with
  | none => rfl
  | some keys => rfl

/-- Loading a file touches memory and the log, whether it succeeds or not. -/
lemma loadFile_eq (m : Machine) (directory : Directory) (path : String) :
    (m.loadFile directory path).1 =
      { m with
        memory := (m.loadFile directory path).1.memory
        log := (m.loadFile directory path).1.log } := by
  rw [loadFile]
  split
  · rw [note_eq]
  · split
    · rw [note_eq]
    · next loaded =>
      rw [load_eq loaded, note_eq]

/-! ## Changes that go with an operation

A change to a machine may come before an operation or after it, and the answer is the same. Of an
operation that branches it is enough to know this of the parts that do something.
-/

section

variable {f : Machine → Machine}

/-- With a program, any payload. -/
lemma load_comm (program : ∀ m rom, (f m).withProgram rom = f (m.withProgram rom)) (m : Machine)
    (payload : Payload) :
    (f m).load payload = (m.load payload).map f := by
  rw [load_eq_map, load_eq_map]
  cases payload.accepted with
  | error e => rfl
  | ok rom => exact congrArg Except.ok (program m rom)

/-- With loading, the operation that loads. -/
lemma perform_load_comm (program : ∀ m rom, (f m).withProgram rom = f (m.withProgram rom))
    (m : Machine) (payload : Payload) :
    (f m).perform (.load payload) =
      (f (m.perform (.load payload)).1, (m.perform (.load payload)).2) := by
  rw [perform, perform, load_comm program]
  cases m.load payload with
  | error e => rfl
  | ok m' => rfl

/-- With a program and the log, loading a file. -/
lemma loadFile_comm (program : ∀ m rom, (f m).withProgram rom = f (m.withProgram rom))
    (notes : ∀ m e, (f m).note e = f (m.note e)) (m : Machine) (directory : Directory)
    (path : String) :
    (f m).loadFile directory path =
      (f (m.loadFile directory path).1, (m.loadFile directory path).2) := by
  rw [loadFile, loadFile, notes]
  cases directory.read path with
  | error e => rfl
  | ok bytes =>
    simp only [load_comm program]
    cases (m.note (.loading path)).load (.bytes bytes) with
    | error e => rfl
    | ok m' => rfl

/-- With moving some keys, moving those that a value selects. -/
lemma moveKey_comm (moves : ∀ m keys down, (f m).setAllDown keys down = f (m.setAllDown keys down))
    (m : Machine) (v : Value) (down : Bool) :
    (f m).moveKey v down = (f (m.moveKey v down).1, (m.moveKey v down).2) := by
  rw [moveKey, moveKey]
  cases keys? v with
  | none => rfl
  | some keys => exact congrArg (·, Answer.done) (moves m keys down)

end

/-- A program is loaded to the same places whatever the rest of the machine, and logged to the log
that there is. -/
lemma withProgram_withRest (m : Machine) (r : Rest) (rom : Rom) :
    (m.withRest r).withProgram rom =
      (m.withProgram rom).withRest { r with log := (m.withRest r).logged (.loaded rom.size) } := by
  have memory : ((m.withRest r).writeFrom Layout.programStart rom.bytes).memory =
      (m.writeFrom Layout.programStart rom.bytes).memory := memory_writeFrom rom.bytes rfl rfl
  rw [withProgram, memory]
  rfl

/-! ## What the host leaves alone -/

/-- An operation of the host other than a step or a reset leaves the program counter, the stack, the
registers, the screen, the counters, the random source and the options alone. -/
lemma perform_eq {operation : Operation} (notStep : operation ≠ .step)
    (notReset : operation ≠ .reset) :
    (m.perform operation).1 =
      { m with
        memory := (m.perform operation).1.memory
        delayTimer := (m.perform operation).1.delayTimer
        soundTimer := (m.perform operation).1.soundTimer
        keys := (m.perform operation).1.keys
        redraw := (m.perform operation).1.redraw
        logging := (m.perform operation).1.logging
        log := (m.perform operation).1.log } := by
  cases operation with
  | step => exact absurd rfl notStep
  | reset => exact absurd rfl notReset
  | load payload => rw [perform_load_eq]
  | pressKey v | releaseKey v => rw [perform, moveKey_eq]
  | tickTimers | consumeRedraw | setLogging on => rfl

/-- No operation changes the options. -/
lemma options_perform (m : Machine) (operation : Operation) :
    (m.perform operation).1.options = m.options := by
  by_cases step : operation = .step
  · rw [step, perform_step]
    exact m.options_step
  · by_cases reset : operation = .reset
    · rw [reset]
      rfl
    · rw [perform_eq step reset]

end Machine

end Chip8
