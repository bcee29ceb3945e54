import Chip8.Proofs.Machine.History

/-!
# Views of the log

A machine never looks at its log. A view shows the log otherwise than it is, for instance as if
logging were off (`frozen`) or with older entries below (`above`), and has to go with logging one
entry more. A machine that is seen through a view goes the same way, and what it logs is seen
through the view as well: `perform_view`. One consequence is that nothing is logged while logging is
off (`log_perform_of_quiet`).
-/

namespace Chip8

/-- Another way to see whether logging is on and what was logged. -/
structure LogView where
  logging : Bool → Bool
  log : List LogEntry → List LogEntry
  /-- An entry more is seen as an entry more, where logging is seen to be on. -/
  note : ∀ (on : Bool) (entries : List LogEntry) (e : LogEntry),
    log (if on then e :: entries else entries) = if logging on then e :: log entries
      else log entries

namespace LogView

/-- Logging is off, and the entries are the given ones. -/
def frozen (entries : List LogEntry) : LogView where
  logging _ := false
  log _ := entries
  note _ _ _ := rfl

/-- Older entries lie below those that were logged. -/
def above (older : List LogEntry) : LogView where
  logging on := on
  log entries := entries ++ older
  note on _ _ := by
    cases on with
    | false => rfl
    | true => rfl

end LogView

namespace Machine

variable {m : Machine} {v : LogView} {operation : Operation}

/-- The machine seen through a view of its log. -/
def view (m : Machine) (v : LogView) : Machine :=
  { m with logging := v.logging m.logging, log := v.log m.log }

/-! ## Steps -/

/-- An entry more is seen as an entry more. -/
lemma logged_view (m : Machine) (v : LogView) (e : LogEntry) :
    (m.view v).logged e = v.log (m.logged e) :=
  (v.note m.logging m.log e).symm

/-- What an instruction tells the log is seen through the view. -/
lemma nextLog_view (m : Machine) (v : LogView) (i : Instruction) :
    (m.view v).nextLog i = v.log (m.nextLog i) := by
  obtain ⟨op, opcode⟩ := i
  cases op with
  | sys | unknown => exact logged_view m v _
  | _ => rfl

/-- Of what a step leaves, the log alone is seen otherwise. -/
lemma nextRest_view (m : Machine) (v : LogView) :
    (m.view v).nextRest =
      { m.nextRest with logging := v.logging m.nextRest.logging, log := v.log m.nextRest.log } := by
  have traced (i : Instruction) := logged_view m v (.trace m.pc i)
  refine nextRest_related m (m.view v)
    (P := fun r r' => r' = { r with logging := v.logging r.logging, log := v.log r.log })
    rfl (fun _ _ => rfl) rfl ?_ ?_
  · intro i
    exact congrArg (fun log => { (m.view v).rest with log := log }) (traced i)
  · intro i _
    have remarked := nextLog_view { m with log := m.logged (.trace m.pc i) } v i
    have seen : { m.view v with log := (m.view v).logged (.trace m.pc i) } =
        { m with log := m.logged (.trace m.pc i) }.view v :=
      congrArg (fun log => { m.view v with log := log }) (traced i)
    rw [← seen] at remarked
    exact congrArg (fun log => { (m.view v).restAfter i with log := log }) remarked

/-- A step is the same through a view. -/
lemma step_view (m : Machine) (v : LogView) : (m.view v).step = (m.step.1.view v, m.step.2) := by
  have same : (m.view v).step = (m.step.1.withRest (m.view v).nextRest, m.step.2) :=
    step_withRest (r := { m.rest with logging := v.logging m.logging, log := v.log m.log }) rfl
      (fun _ _ => rfl) fun _ _ => ⟨rfl, rfl, fun _ => rfl, fun _ => rfl, fun _ => rfl⟩
  rw [same, nextRest_view, ← rest_step]
  rfl

/-! ## Operations -/

/-- What is logged is seen through the view. -/
lemma note_view (m : Machine) (v : LogView) (e : LogEntry) :
    (m.view v).note e = (m.note e).view v := by
  rw [note_eq, note_eq m, logged_view]
  rfl

/-- A program is loaded, and its size logged, through the view. -/
lemma withProgram_view (m : Machine) (v : LogView) (rom : Rom) :
    (m.view v).withProgram rom = (m.withProgram rom).view v := by
  have loaded : (m.view v).withProgram rom = (m.withProgram rom).withRest
      { m.rest with logging := v.logging m.logging, log := (m.view v).logged (.loaded rom.size) } :=
    withProgram_withRest m { m.rest with logging := v.logging m.logging, log := v.log m.log } rom
  rw [loaded, logged_view]
  rfl

/-- A file is loaded through the view. -/
lemma loadFile_view (m : Machine) (v : LogView) (directory : Directory) (path : String) :
    (m.view v).loadFile directory path =
      ((m.loadFile directory path).1.view v, (m.loadFile directory path).2) :=
  loadFile_comm (f := (view · v)) (withProgram_view · v) (note_view · v) m directory path

/-- An operation that does not turn logging on or off is the same through a view. -/
theorem perform_view (m : Machine) (v : LogView) (keeps : ∀ on, operation ≠ .setLogging on) :
    (m.view v).perform operation = ((m.perform operation).1.view v, (m.perform operation).2) := by
  cases operation with
  | step => rw [perform_step, perform_step, step_view]
  | load payload => exact perform_load_comm (f := (view · v)) (withProgram_view · v) m payload
  | pressKey value | releaseKey value =>
    exact moveKey_comm (f := (view · v)) (fun _ _ _ => rfl) m value _
  | reset | tickTimers | consumeRedraw => rfl
  | setLogging on => exact absurd rfl (keeps on)

/-- A machine that does not log is what it looks like with logging off. -/
lemma view_frozen_of_quiet (quiet : m.logging = false) : m.view (.frozen m.log) = m := by
  show { m with logging := false } = m
  rw [← quiet]

/-- So nothing is logged, whatever is done to it. -/
lemma log_perform_of_quiet (quiet : m.logging = false) (operation : Operation) :
    (m.perform operation).1.log = m.log := by
  by_cases sets : ∃ on, operation = .setLogging on
  · obtain ⟨on, rfl⟩ := sets
    rfl
  · have same := perform_view m (.frozen m.log) (not_exists.1 sets)
    rw [view_frozen_of_quiet quiet] at same
    rw [same]
    rfl

/-- Nor is a file that is loaded while logging is off. -/
lemma log_loadFile_of_quiet (quiet : m.logging = false) (directory : Directory) (path : String) :
    (m.loadFile directory path).1.log = m.log := by
  have same := loadFile_view m (.frozen m.log) directory path
  rw [view_frozen_of_quiet quiet] at same
  rw [same]
  rfl

end Machine

end Chip8
