import Chip8.Proofs.Machine.Addressing
import Chip8.Proofs.Machine.LogView
import Chip8.Proofs.Text.Hex

/-!
# Tracing

Whether a machine is traced makes no difference to anything but its log. What a host is told of a
run besides the log is `observations`; it is that of the same run with logging off all the time
(`observations_eq`). What a step of a traced machine logs depends on what is fetched alone: a line
with place and mnemonic, and a remark on a word that is passed over (`log_step_of_fetch`). The two
together are `tracing_invisible`.
-/

namespace Chip8

/-- Whether an operation turns logging on or off. -/
def Operation.setsLogging : Operation → Bool
  | setLogging _ => true
  | _ => false

/-- What an instruction tells the log itself, apart from being traced. -/
def Instruction.remarks (i : Instruction) : List LogEntry :=
  match i.op with
  | .sys => [.sysIgnored]
  | .unknown => [.unknownOpcode i.opcode]
  | _ => []

/-- Words that are passed over are remarked on once. -/
lemma Instruction.length_remarks (i : Instruction) :
    i.remarks.length = if i.op = .sys ∨ i.op = .unknown then 1 else 0 := by
  obtain ⟨op, opcode⟩ := i
  cases op with
  | _ => rfl

namespace Machine

variable {m m' : Machine} {i : Instruction} {operation : Operation}

/-- The machine with its log hidden. -/
def unlogged (m : Machine) : Machine := { m with logging := false, log := [] }

/-- The lines of the log, the earliest first. -/
def lines (m : Machine) : List String := m.log.reverse.map LogEntry.text

/-- What a host is told of a run besides the log: the answer to each operation and the machine after
it. That logging is turned on or off tells nothing. -/
def observations (m : Machine) : List Operation → List (Answer × Machine)
  | [] => []
  | operation :: operations =>
    let (m, answer) := m.perform operation
    if operation.setsLogging then m.observations operations
    else (answer, m.unlogged) :: m.observations operations

/-! ## Two runs -/

/-- Turning logging on or off changes nothing but the log. -/
lemma unlogged_perform_of_setsLogging (sets : operation.setsLogging = true) :
    (m.perform operation).1.unlogged = m.unlogged := by
  cases operation with
  | setLogging on => rfl
  | _ => cases sets

/-- Any other operation does not look at the log. -/
lemma perform_unlogged (m : Machine) (keeps : operation.setsLogging = false) :
    m.unlogged.perform operation = ((m.perform operation).1.unlogged, (m.perform operation).2) := by
  apply perform_view m (.frozen [])
  rintro on rfl
  cases keeps

/-- A host is told the same as if logging were off all the time. -/
lemma observations_eq (m : Machine) (operations : List Operation) :
    m.observations operations = m.unlogged.observations (operations.filter (!·.setsLogging)) := by
  induction operations generalizing m with
  | nil => rfl
  | cons operation operations ih =>
    have rest := ih (m.perform operation).1
    cases sets : operation.setsLogging with
    | true =>
      rw [unlogged_perform_of_setsLogging sets] at rest
      rw [List.filter_cons_of_neg (by simp [sets]), ← rest, observations, sets]
      rfl
    | false =>
      rw [List.filter_cons_of_pos (by simp [sets]), observations, observations,
        perform_unlogged m sets]
      simp only [sets, Bool.false_eq_true, if_false, rest]
      rfl

/-- So is the machine at the end. -/
lemma unlogged_performAll (m : Machine) (operations : List Operation) :
    (m.performAll operations).1.unlogged =
      (m.unlogged.performAll (operations.filter (!·.setsLogging))).1 := by
  induction operations generalizing m with
  | nil => rfl
  | cons operation operations ih =>
    have rest := ih (m.perform operation).1
    cases sets : operation.setsLogging with
    | true =>
      rw [unlogged_perform_of_setsLogging sets] at rest
      rw [List.filter_cons_of_neg (by simp [sets])]
      exact rest
    | false =>
      rw [List.filter_cons_of_pos (by simp [sets]), performAll, performAll, perform_unlogged m sets]
      exact rest

/-! ## What is logged -/

/-- An instruction that may be refused has no remarks. -/
lemma remarks_of_refused {f : Fault} (refused : m.fault? i = some f) : i.remarks = [] := by
  obtain ⟨op, opcode⟩ := i
  cases op with
  | sys | unknown => cases refused
  | _ => rfl

/-- While logging is on, an instruction adds its remarks to the log. -/
lemma nextLog_of_logging (on : m.logging = true) (i : Instruction) :
    m.nextLog i = i.remarks ++ m.log := by
  obtain ⟨op, opcode⟩ := i
  cases op with
  | sys | unknown => exact if_pos on
  | _ => rfl

/-- While logging is on, a step logs the instruction that it fetches and the remarks on it, also if
it is refused. -/
lemma log_step_of_fetch (on : m.logging = true) (fetched : m.fetch = .ok i) :
    m.step.1.log = i.remarks ++ .trace m.pc i :: m.log := by
  have recorded : m.step.1.log = m.nextRest.log := congrArg Rest.log m.rest_step
  have traced : m.logged (.trace m.pc i) = .trace m.pc i :: m.log := if_pos on
  rw [recorded]
  cases refused : m.fault? i with
  | some f =>
    rw [nextRest_of_refused fetched refused, remarks_of_refused refused]
    exact traced
  | none =>
    have remarked := nextLog_of_logging (m := { m with log := m.logged (.trace m.pc i) }) on i
    rw [nextRest_of_accepted fetched refused, ← traced]
    exact remarked

/-- The same as lines of text. -/
lemma lines_step_of_fetch (on : m.logging = true) (fetched : m.fetch = .ok i) :
    m.step.1.lines =
      m.lines ++ (Hex.upper 3 m.pc.toNat ++ ": " ++ i.mnemonic) :: i.remarks.reverse.map
        LogEntry.text := by
  rw [lines, log_step_of_fetch on fetched, List.reverse_append, List.reverse_cons,
    List.append_assoc, List.map_append]
  rfl

/-- Tracing is an observer. Two machines that differ in their logs alone, and on which the same is
done while logging is turned on and off at any times, give the same answers and go through the same
states, logs apart. A traced step logs nothing if there is nothing to fetch. Otherwise it logs a
line with the place, in at least three hexadecimal digits, and the mnemonic of what was fetched,
also if that is refused, and behind it one remark on a word that is passed over and none on any
other. While logging is off nothing is logged. -/
theorem tracing_invisible :
    (∀ (m m' : Machine) (operations operations' : List Operation), m.unlogged = m'.unlogged →
      operations.filter (!·.setsLogging) = operations'.filter (!·.setsLogging) →
      m.observations operations = m'.observations operations' ∧
        (m.performAll operations).1.unlogged = (m'.performAll operations').1.unlogged) ∧
    (∀ (m m' : Machine) (directory : Directory) (path : String), m.unlogged = m'.unlogged →
      (m.loadFile directory path).2 = (m'.loadFile directory path).2 ∧
        (m.loadFile directory path).1.unlogged = (m'.loadFile directory path).1.unlogged) ∧
    (∀ m : Machine, m.logging = true →
      (∀ f, m.fetch = .error f → m.step.1.lines = m.lines) ∧
      ∀ i, m.fetch = .ok i →
        3 ≤ (Hex.upper 3 m.pc.toNat).length ∧ Hex.read? (Hex.upper 3 m.pc.toNat).toList =
          some m.pc.toNat ∧
        ∃ remarks : List String,
          m.step.1.lines = m.lines ++ (Hex.upper 3 m.pc.toNat ++ ": " ++ i.mnemonic) :: remarks ∧
          remarks.length = if i.op = .sys ∨ i.op = .unknown then 1 else 0) ∧
    ∀ m : Machine, m.logging = false →
      (∀ operation, (m.perform operation).1.lines = m.lines) ∧
        ∀ directory path, (m.loadFile directory path).1.lines = m.lines := by
  refine ⟨?_, ?_, ?_, ?_⟩
  · intro m m' operations operations' same visible
    rw [observations_eq m, observations_eq m', unlogged_performAll m, unlogged_performAll m', same,
      visible]
    exact ⟨rfl, rfl⟩
  · intro m m' directory path same
    have alike : m.view (.frozen []) = m'.view (.frozen []) := same
    have seen := loadFile_view m (.frozen []) directory path
    rw [alike, loadFile_view] at seen
    exact ⟨(congrArg Prod.snd seen).symm, (congrArg Prod.fst seen).symm⟩
  · intro m on
    refine ⟨?_, ?_⟩
    · intro f noFetch
      rw [step, noFetch]
    · intro i fetched
      obtain ⟨wide, reads⟩ := Hex.read?_upper 3 m.pc.toNat
      refine ⟨wide, reads, _, lines_step_of_fetch on fetched, ?_⟩
      rw [List.length_map, List.length_reverse, i.length_remarks]
  · intro m quiet
    refine ⟨?_, ?_⟩
    · intro operation
      rw [lines, log_perform_of_quiet quiet]
      rfl
    · intro directory path
      rw [lines, log_loadFile_of_quiet quiet]
      rfl

/-- Two machines run the same program, one traced from its second step on, the other in its first
two steps. A host is told the same of both. The traced machine remarks on the word that it passes
over, and logs the return although it is refused; the machine that is not traced logs nothing. -/
theorem trace_of_stray_return :
    let rom : Operation := .load (.bytes [0x01, 0x23, 0x51, 0x21, 0x00, 0xEE])
    let quiet : Machine := fresh ⟨.bit, false, true⟩ false (.cycle 0 [])
    let traced : Machine := fresh ⟨.bit, false, true⟩ true (.cycle 0 [])
    let passing : Machine := (traced.performAll [rom, .step]).1
    let returning : Machine := (traced.performAll [rom, .step, .step]).1
    quiet.observations [rom, .step, .setLogging true, .step, .step] =
        traced.observations [rom, .step, .step, .setLogging false, .step] ∧
      (∃ remark, passing.step.1.lines = passing.lines ++ ["202: DW 5121", remark]) ∧
      returning.step.2 = some (.returnAt 0x204) ∧ returning.step.1.lines =
        returning.lines ++ ["204: RET"] ∧
      (quiet.perform .step).1.lines = [] := by
  intro rom quiet traced passing returning
  obtain ⟨same, _, logged, silent⟩ := tracing_invisible
  obtain ⟨on, wraps, place, reads⟩ : passing.logging = true ∧ passing.options.strict = false ∧
      passing.pc = 0x202 ∧ passing.opcode = 0x5121 := by
    decide +kernel
  obtain ⟨_, _, remarks, passed, one⟩ := (logged passing on).2 _ (fetch_of_not_strict wraps reads)
  obtain ⟨remark, rfl⟩ := List.length_eq_one_iff.1 one
  obtain ⟨on', wraps', place', reads', refused⟩ : returning.logging = true ∧
    returning.options.strict = false ∧
      returning.pc = 0x204 ∧ returning.opcode = 0x00EE ∧ returning.stack = [] := by
    decide +kernel
  have fetched := fetch_of_not_strict wraps' reads'
  obtain ⟨_, _, others, returned, none⟩ := (logged returning on').2 _ fetched
  have nothing : others = [] := List.eq_nil_of_length_eq_zero none
  refine ⟨?_, ⟨remark, ?_⟩, ?_, ?_, (silent quiet rfl).1 .step⟩
  · exact (same quiet traced [rom, .step, .setLogging true, .step, .step]
      [rom, .step, .step, .setLogging false, .step]
      rfl rfl).1
  · rw [passed, place]
    rfl
  · rw [step_fault_iff]
    refine .inr ⟨_, fetched, ?_⟩
    rw [fault?_eq_some_iff, place']
    exact .inl ⟨rfl, refused, rfl⟩
  · rw [returned, place', nothing]
    rfl

end Machine

end Chip8
