import Chip8.Proofs.Machine.Moment

/-!
# Requests for a redraw

A machine asks for a redraw when the screen is cleared or drawn on, and the request stands until the
host takes it or the machine is reset. What one moment of a run does to the request is
`redraw_perform`; over a run, `Requested` tells from the moments alone whether a request stands
(`redraw_performAll`). No change of the screen gets lost: a run that leaves no request has left the
screen alone (`screen_performAll_of_quiet`).
-/

namespace Chip8

/-- Whether an operation ends a request for a redraw, or starts a machine without one. -/
def Operation.endsRequest : Operation → Bool
  | consumeRedraw | reset => true
  | _ => false

namespace Moment

/-- Whether a redraw is asked for: the screen is cleared, or a sprite of any height and with any
pixels is drawn. -/
def requests (moment : Moment) : Bool := moment.executes .cls || moment.executes .draw

/-- A redraw was asked for in the course of moments, and the request has not been ended since. -/
inductive Requested : List Moment → Prop where
  | intro {before after : List Moment} {moment : Moment} :
    moment.requests = true →
    (∀ later ∈ after, later.operation.endsRequest = false) →
    Requested (before ++ moment :: after)

/-- A redraw is requested by an instruction that clears the screen or draws on it. -/
lemma requests_iff {moment : Moment} :
    moment.requests = true ↔ ∃ i, moment.executed = some i ∧ (i.op = .cls ∨ i.op = .draw) := by
  rw [requests, Bool.or_eq_true, executes_iff, executes_iff]
  constructor
  · rintro (⟨i, executed, cls⟩ | ⟨i, executed, draw⟩)
    · exact ⟨i, executed, .inl cls⟩
    · exact ⟨i, executed, .inr draw⟩
  · rintro ⟨i, executed, cls | draw⟩
    · exact .inl ⟨i, executed, cls⟩
    · exact .inr ⟨i, executed, draw⟩

/-- A further moment asks for a redraw, or it does not end the request that stands. -/
lemma requested_concat {past : List Moment} {moment : Moment} :
    Requested (past ++ [moment]) ↔
      moment.requests = true ∨ moment.operation.endsRequest = false ∧ Requested past := by
  constructor
  · intro requested
    generalize same : past ++ [moment] = moments at requested
    cases requested with
    | @intro before after asking asks stands =>
      -- The moment that asks is the further one, or it is among those of the past.
      rcases List.eq_nil_or_concat' after with rfl | ⟨between, last, rfl⟩
      · obtain ⟨_, only⟩ := List.append_inj' same rfl
        cases only
        exact .inl asks
      · rw [← List.cons_append, ← List.append_assoc] at same
        obtain ⟨rfl, only⟩ := List.append_inj' same rfl
        cases only
        refine .inr ⟨stands _ (List.mem_append_right _ (List.mem_singleton_self _)), .intro asks ?_⟩
        intro later member
        exact stands later (List.mem_append_left _ member)
  · rintro (asks | ⟨kept, requested⟩)
    · exact .intro asks (List.forall_mem_nil _)
    · cases requested with
      | intro asks stands =>
        rw [List.append_assoc, List.cons_append]
        refine .intro asks ?_
        intro later member
        rcases List.mem_append.1 member with earlier | last
        · exact stands later earlier
        · rw [List.mem_singleton.1 last]
          exact kept

/-- Before the first moment no redraw is requested. -/
lemma not_requested_nil : ¬Requested [] := by
  intro requested
  generalize same : ([] : List Moment) = moments at requested
  cases requested with
  | intro _ _ =>
    exact absurd same.symm (List.append_ne_nil_of_right_ne_nil _ (List.cons_ne_nil _ _))

end Moment

namespace Machine

open Moment

variable {m : Machine} {operation : Operation}

/-! ## One moment -/

/-- A step that fails touches neither the screen nor the request for a redraw. -/
lemma redraw_step_of_fails {f : Fault} (fails : m.step.2 = some f) :
    m.step.1.redraw = m.redraw ∧ m.step.1.screen = m.screen := by
  obtain ⟨log, result⟩ := step_of_fails fails
  rw [result]
  exact ⟨rfl, rfl⟩

/-- After a moment a request stands if it was made in the moment, or stood before and was not
ended. -/
lemma redraw_perform (m : Machine) (operation : Operation) :
    (m.perform operation).1.redraw = true ↔
      requests ⟨m, operation⟩ = true ∨ operation.endsRequest = false ∧ m.redraw = true := by
  rw [requests_iff]
  cases executes : executed ⟨m, operation⟩ with
  | some i =>
    obtain ⟨rfl, _⟩ := executed_eq_some_iff.1 executes
    obtain ⟨_, result⟩ := perform_of_executed executes
    have frame := (frame_finishStep_effect (m.note (.trace m.pc i)) i).of_note
    rw [result, frame.redraw]
    constructor
    · rintro (stood | asks)
      · exact .inr ⟨rfl, stood⟩
      · exact .inl ⟨i, rfl, asks⟩
    · rintro (⟨_, same, asks⟩ | ⟨_, stood⟩)
      · cases same
        exact .inr asks
      · exact .inl stood
  | none =>
    rw [or_iff_right (by rintro ⟨_, ⟨⟩, _⟩)]
    cases operation with
    | step =>
      cases stopped : m.step.2 with
      | some f =>
        rw [perform_step, (redraw_step_of_fails stopped).1]
        exact (and_iff_right rfl).symm
      | none =>
        obtain ⟨i, some⟩ := exists_executed_of_done stopped
        cases executes.symm.trans some
    | load payload =>
      rw [perform_load_eq]
      exact (and_iff_right rfl).symm
    | pressKey v | releaseKey v =>
      rw [perform, moveKey_eq]
      exact (and_iff_right rfl).symm
    | tickTimers | setLogging on => exact (and_iff_right rfl).symm
    | consumeRedraw | reset =>
      constructor
      · intro stood
        cases stood
      · rintro ⟨keeps, _⟩
        cases keeps

/-- A step that leaves no request for a redraw found none, and has left the screen alone. -/
lemma screen_step_of_quiet (done : m.step.2 = none) (quiet : m.step.1.redraw = false) :
    m.redraw = false ∧ m.step.1.screen = m.screen := by
  obtain ⟨i, frame⟩ := exists_frame_of_done done
  have noRequest : ¬(m.redraw = true ∨ i.op = .cls ∨ i.op = .draw) := by
    rw [← frame.redraw, quiet]
    nofun
  refine ⟨Bool.eq_false_iff.2 fun asked => noRequest (.inl asked), ?_⟩
  by_contra changed
  exact noRequest (.inr (frame.screen changed))

/-- So has any other operation that ends no request. -/
lemma screen_perform_of_quiet (keeps : operation.endsRequest = false)
    (quiet : (m.perform operation).1.redraw = false) :
    m.redraw = false ∧ (m.perform operation).1.screen = m.screen := by
  by_cases step : operation = .step
  · subst step
    rw [perform_step] at quiet ⊢
    cases stopped : m.step.2 with
    | some f =>
      obtain ⟨redraw, screen⟩ := redraw_step_of_fails stopped
      exact ⟨redraw.symm.trans quiet, screen⟩
    | none => exact screen_step_of_quiet stopped quiet
  · have notReset : operation ≠ .reset := by
      rintro rfl
      cases keeps
    have kept : m.redraw = true → (m.perform operation).1.redraw = true := fun stood =>
      (redraw_perform m operation).2 (.inr ⟨keeps, stood⟩)
    refine ⟨Bool.eq_false_iff.2 fun stood => ?_, ?_⟩
    · cases quiet.symm.trans (kept stood)
    · rw [perform_eq step notReset]

/-! ## Runs -/

/-- A run that ends no request and leaves none has left the screen alone. -/
lemma screen_performAll_of_quiet {operations : List Operation}
    (keeps : ∀ operation ∈ operations, operation.endsRequest = false)
    (quiet : (m.performAll operations).1.redraw = false) :
    m.redraw = false ∧ (m.performAll operations).1.screen = m.screen := by
  induction operations generalizing m with
  | nil => exact ⟨quiet, rfl⟩
  | cons operation operations ih =>
    obtain ⟨first, others⟩ := List.forall_mem_cons.1 keeps
    obtain ⟨quiet', same⟩ := ih (m := (m.perform operation).1) others quiet
    obtain ⟨noRequest, same'⟩ := screen_perform_of_quiet first quiet'
    exact ⟨noRequest, same.trans same'⟩

/-- The operations of the moments of a run are those that were performed. -/
lemma map_operation_moments (m : Machine) (operations : List Operation) :
    (m.moments operations).map Moment.operation = operations := by
  induction operations generalizing m with
  | nil => rfl
  | cons operation operations ih => exact congrArg (operation :: ·) (ih (m.perform operation).1)

/-- At the end of a run a request stands that was made in it, or one that stood before if none was
ended. -/
lemma redraw_performAll (m : Machine) (operations : List Operation) :
    (m.performAll operations).1.redraw = true ↔
      Requested (m.moments operations) ∨
        m.redraw = true ∧ ∀ operation ∈ operations, operation.endsRequest = false := by
  have known : (m.performAll operations).1.redraw = true ↔
      Requested (m.moments operations) ∨
        m.redraw = true ∧ ∀ moment ∈ m.moments operations, moment.operation.endsRequest =
          false := by
    refine moments_induction (P := fun past m' => m'.redraw = true ↔
      Requested past ∨ m.redraw = true ∧ ∀ moment ∈ past, moment.operation.endsRequest =
        false) ?_ ?_ operations
    · exact ⟨fun stood => .inr ⟨stood, List.forall_mem_nil _⟩, fun known =>
        (known.resolve_left not_requested_nil).1⟩
    · intro past m' operation known
      rw [redraw_perform, known, requested_concat, List.forall_mem_append,
        List.forall_mem_singleton]
      constructor
      · rintro (asks | ⟨kept, requested | ⟨stood, others⟩⟩)
        · exact .inl (.inl asks)
        · exact .inl (.inr ⟨kept, requested⟩)
        · exact .inr ⟨stood, others, kept⟩
      · rintro ((asks | ⟨kept, requested⟩) | ⟨stood, others, kept⟩)
        · exact .inl asks
        · exact .inr ⟨kept, .inl requested⟩
        · exact .inr ⟨kept, .inr ⟨stood, others⟩⟩
  rw [known, ← List.forall_mem_map (f := Moment.operation) (P := fun o => o.endsRequest = false),
    map_operation_moments]

/-- The request for a redraw over a run. Whatever is done to a machine, at the end a request stands
exactly if an instruction that clears the screen or draws was executed and the request has not been
taken since, nor the machine reset; a new machine has none. Every drawing that is done is a request,
whatever it draws; a step that fails makes none and leaves the screen alone. If the screen is not
what it was when the host last took the request, or when the machine was new, then the host is told
so the next time, and told of nothing new directly after. -/
theorem no_redraw_lost :
    (∀ (m : Machine) (operations : List Operation), (m.performAll operations).1.redraw = true ↔
      Requested (m.moments operations) ∨
        m.redraw = true ∧ ∀ operation ∈ operations, operation.endsRequest = false) ∧
    (∀ (options : Options) (logging : Bool) (random : Source Byte),
      (fresh options logging random).redraw = false) ∧
    (∀ m : Machine,
      (∀ i, m.fetch = .ok i → i.op = .cls ∨ i.op = .draw → m.step.2 = none →
        m.step.1.redraw = true) ∧
      ∀ f, m.step.2 = some f →
        requests ⟨m, .step⟩ = false ∧ m.step.1.redraw = m.redraw ∧ m.step.1.screen = m.screen) ∧
    ∀ (start : Machine),
      ((∃ options logging random, start = fresh options logging random) ∨
        ∃ m : Machine, start = (m.perform .consumeRedraw).1) →
      ∀ operations, (∀ operation ∈ operations, operation.endsRequest = false) →
        let m' := (start.performAll operations).1
        m'.screen ≠ start.screen →
          (m'.perform .consumeRedraw).2 = .flag true ∧
            ((m'.perform .consumeRedraw).1.perform .consumeRedraw).2 = .flag false := by
  refine ⟨redraw_performAll, fun _ _ _ => rfl, ?_, ?_⟩
  · intro m
    refine ⟨?_, ?_⟩
    · intro i fetched op done
      have executes := executed_eq_some_iff.2 ⟨rfl, done, fetched⟩
      have asks := (redraw_perform m .step).2 (.inl (requests_iff.2 ⟨i, executes, op⟩))
      rwa [perform_step] at asks
    · intro f fails
      refine ⟨?_, redraw_step_of_fails fails⟩
      rw [requests, Moment.executes, Moment.executes, executed, fails]
      rfl
  · intro start origin operations keeps m' changed
    have none : start.redraw = false := by
      rcases origin with ⟨_, _, _, rfl⟩ | ⟨_, rfl⟩
      · rfl
      · rfl
    have stands : m'.redraw = true := by
      by_contra quiet
      exact changed (screen_performAll_of_quiet keeps (Bool.eq_false_iff.2 quiet)).2
    exact ⟨congrArg Answer.flag stands, rfl⟩

/-- A strict machine draws a sprite without rows, for which it asks as for any other. After the host
has taken the request the machine draws a glyph, and then it fails to draw beyond the end of memory:
the request of the glyph stands. -/
theorem glyph_requested_once :
    let new : Machine := fresh ⟨.bit, true, true⟩ false (.cycle 0 [])
    let load : Operation := .load (.bytes [0xD0, 0x10, 0xD0, 0x15, 0xAF, 0xFF, 0xD0, 0x12])
    let m : Machine := (new.performAll [load, .step]).1
    let start : Machine := (m.perform .consumeRedraw).1
    let m' : Machine := (start.performAll [.step, .tickTimers, .step]).1
    let m'' : Machine := (start.performAll [.step, .tickTimers, .step, .step]).1
    m.redraw = true ∧ Requested (new.moments [load, .step]) ∧
      (∃ f, m'.step.2 = some f ∧ requests ⟨m', .step⟩ = false) ∧ m''.screen ≠ start.screen ∧
      (m''.perform .consumeRedraw).2 = .flag true ∧
        ((m''.perform .consumeRedraw).1.perform .consumeRedraw).2 = .flag false := by
  intro new load m start m' m''
  obtain ⟨runs, _, steps, kept⟩ := no_redraw_lost
  have stands : m.redraw = true := by decide +kernel
  have requested := ((runs new [load, .step]).1 stands).resolve_right fun before =>
    Bool.false_ne_true before.1
  obtain ⟨f, fails⟩ : ∃ f, m'.step.2 = some f := Option.isSome_iff_exists.1 (by decide +kernel)
  have lit : m''.screen.isLit 0 0 = true ∧ start.screen.isLit 0 0 = false := by decide +kernel
  have changed : m''.screen ≠ start.screen := by
    intro same
    rw [same, lit.2] at lit
    exact absurd lit.1 Bool.false_ne_true
  obtain ⟨told, nothing⟩ :=
    kept start (.inr ⟨m, rfl⟩) [.step, .tickTimers, .step, .step] (by decide) changed
  exact ⟨stands, requested, ⟨f, fails, ((steps m').2 f fails).1⟩, changed, told, nothing⟩

end Machine

end Chip8
