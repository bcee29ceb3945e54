import Mathlib.Algebra.Order.Ring.Int
import Mathlib.Data.List.DropRight
import Mathlib.Data.List.Induction
import Chip8.Machine.Operation
import Chip8.Proofs.Pacer.Count
import Chip8.Proofs.Window.Closing

/-!
# Counters

A window counts how often it is drawn and remembers how many steps its machine had made when its
labels were brought up to date. A `Record` of an event says what it adds to the counts and what the
labels are told; `CountsTo` is what it does to the counters. `Tallied` is the invariant of a run:
the counters hold what was added since the labels were told last, and what they were told and what
the counters hold make up the whole.
-/

namespace Chip8

/-- Whether a number is zero. -/
def Quantity.isZero : Quantity → Bool
  | whole n => n == 0
  | real d => d.isZero

/-- Nothing can be divided by zero. -/
lemma Quantity.under_of_isZero {q : Quantity} (zero : q.isZero = true) (count : Int) :
    ∃ e, q.under count = .error e := by
  cases q with
  | whole n =>
    have same : n = 0 := beq_iff_eq.1 zero
    exact ⟨.divisionByZero, by rw [under, if_pos same]⟩
  | real d =>
    have same : d.isZero = true := zero
    exact ⟨.realDivisionByZero, by rw [under, if_pos same]⟩

namespace Window

variable {w w' : Window} {e : Event} {elapsed : Quantity}

/-! ## Records -/

/-- What the labels are told: the draws and the steps since the last time. -/
structure Report where
  draws : Nat
  steps : Int
deriving DecidableEq, Repr

/-- What an event adds to the counts, and what it tells the labels. -/
structure Record where
  event : Event
  /-- How many steps of the machine are done. -/
  steps : Nat
  report? : Option Report
deriving DecidableEq, Repr

namespace Record

/-- How often the window was drawn. -/
def drawsIn (past : List Record) : Nat := (past.map event).count .draw

/-- How many steps were done. -/
def stepsIn (past : List Record) : Nat := (past.map steps).sum

/-- The draws that the labels were told of, all in all. -/
def drawsReported (past : List Record) : Nat := ((past.filterMap report?).map Report.draws).sum

/-- The steps that the labels were told of, all in all. -/
def stepsReported (past : List Record) : Int := ((past.filterMap report?).map Report.steps).sum

/-- What came after the labels were told last, or everything if they never were. -/
def sinceReport (past : List Record) : List Record := past.rtakeWhile (·.report?.isNone)

variable (past : List Record) (r : Record)

/-- One more event is a draw or not. -/
lemma drawsIn_concat : drawsIn (past ++ [r]) = drawsIn past + if r.event = .draw then 1 else 0 := by
  simp [drawsIn, List.count_singleton]

/-- One more event adds its steps. -/
lemma stepsIn_concat : stepsIn (past ++ [r]) = stepsIn past + r.steps := by simp [stepsIn]

/-- One more event may report draws. -/
lemma drawsReported_concat :
    drawsReported (past ++ [r]) = drawsReported past + (r.report?.map Report.draws).getD 0 := by
  cases told : r.report? with
  | none => simp [drawsReported, told]
  | some report => simp [drawsReported, told]

/-- One more event may report steps. -/
lemma stepsReported_concat :
    stepsReported (past ++ [r]) = stepsReported past + (r.report?.map Report.steps).getD 0 := by
  cases told : r.report? with
  | none => simp [stepsReported, told]
  | some report => simp [stepsReported, told]

variable {past r}

/-- Where the labels are told, a new part of the past begins. -/
lemma sinceReport_of_told {report : Report} (told : r.report? = some report) :
    sinceReport (past ++ [r]) = [] := by
  rw [sinceReport, List.rtakeWhile_concat, told]
  rfl

/-- Where they are not, the latest part goes on. -/
lemma sinceReport_of_untold (untold : r.report? = none) :
    sinceReport (past ++ [r]) = sinceReport past ++ [r] := by
  rw [sinceReport, List.rtakeWhile_concat, untold]
  rfl

end Record

/-- How many steps of the machine are done in an event. -/
def stepsDone (w : Window) : Event → Nat
  | .tick .cpuTick elapsed => if w.exited then 0 else w.pacer.stepsDone elapsed
  | _ => 0

/-- What an event with an answer tells the labels, if it brings them up to date. -/
def report? (w : Window) : Event → Except HostError String → Option Report
  | .tick .updateBench _, .ok _ => some ⟨w.draws, w.machine.cycles - w.cyclesSeen⟩
  | _, _ => none

/-- The record of an event. -/
def record (w : Window) (e : Event) : Record := ⟨e, w.stepsDone e, w.report? e (w.handle e).2⟩

/-- The records of events in turn. -/
def records (w : Window) : List Event → List Record
  | [] => []
  | e :: events => w.record e :: (w.handle e).1.records events

/-- One more event makes a run longer by a record. -/
lemma records_concat (w : Window) (events : List Event) (e : Event) :
    w.records (events ++ [e]) = w.records events ++ [(w.handleAll events).record e] := by
  induction events generalizing w with
  | nil => rfl
  | cons first events ih => exact congrArg (w.record first :: ·) (ih (w.handle first).1)

/-- The records of a run are those of its events, in order. -/
lemma map_event_records (w : Window) (events : List Event) :
    (w.records events).map Record.event = events := by
  induction events generalizing w with
  | nil => rfl
  | cons first events ih => exact congrArg (first :: ·) (ih (w.handle first).1)

/-! ## One event -/

/-- What an event does to the counters. -/
inductive CountsTo (w : Window) (e : Event) (result : Window × Except HostError String) : Prop where
  /-- The labels are told, and the counts begin anew. -/
  | told :
    w.report? e result.2 = some ⟨w.draws, w.machine.cycles - w.cyclesSeen⟩ →
    e ≠ .draw →
    w.stepsDone e = 0 →
    result.1.draws = 0 →
    result.1.cyclesSeen = w.machine.cycles →
    result.1.machine.cycles = w.machine.cycles →
    w.CountsTo e result
  /-- A draw is counted, and the steps that are done. -/
  | counted :
    w.report? e result.2 = none →
    result.1.draws = (w.draws + if e = .draw then 1 else 0) →
    result.1.cyclesSeen = w.cyclesSeen →
    result.1.machine.cycles = w.machine.cycles + w.stepsDone e →
    w.CountsTo e result

/-- A tick of the steps in an open window does to the counters what the steps do to the machine. -/
lemma countsTo_cpuTick {pacer : Pacer} {answer : Except HostError Tick}
    {result : Window × Except HostError String} (opened : w.exited = false)
    (ticked : w.pacer.tick elapsed = (pacer, answer)) (draws : result.1.draws = w.draws)
    (seen : result.1.cyclesSeen = w.cyclesSeen) (machine : result.1.machine = pacer.machine) :
    w.CountsTo (.tick .cpuTick elapsed) result := by
  have cycles := w.pacer.cycles_tick elapsed
  rw [ticked] at cycles
  refine .counted rfl draws seen ?_
  rw [machine, stepsDone, opened]
  exact cycles

/-- Every event counts by the rules. -/
lemma countsTo_of_handlesTo {result : Window × Except HostError String}
    (rule : w.HandlesTo e result) :
    w.CountsTo e result := by
  cases rule with
  | late exited =>
    refine .counted rfl rfl rfl ?_
    rw [stepsDone, exited]
    rfl
  | raised opened ticked | stopped opened ticked => exact countsTo_cpuTick opened ticked rfl rfl rfl
  | unchanged opened ticked | shown opened ticked =>
    rw [updateSound_eq]
    exact countsTo_cpuTick opened ticked rfl rfl rfl
  | told => exact .told rfl nofun rfl rfl rfl rfl
  | _ => exact .counted rfl rfl rfl rfl

/-! ## Sequences of events -/

open Record

/-- The counters of a window after events that left these records. -/
structure Tallied (w : Window) (past : List Record) : Prop where
  draws : w.draws = drawsIn (sinceReport past)
  steps : w.machine.cycles = w.cyclesSeen + stepsIn (sinceReport past)
  allDraws : drawsReported past + w.draws = drawsIn past
  allSteps : stepsReported past + (w.machine.cycles - w.cyclesSeen) = stepsIn past

/-- Every event keeps the tally. -/
lemma Tallied.handle {past : List Record} (tallied : w.Tallied past) (e : Event) :
    (w.handle e).1.Tallied (past ++ [w.record e]) := by
  have rule := countsTo_of_handlesTo (w.handlesTo_handle e)
  obtain ⟨draws, steps, allDraws, allSteps⟩ := tallied
  have event : (w.record e).event = e := rfl
  have done : (w.record e).steps = w.stepsDone e := rfl
  have told : (w.record e).report? = w.report? e (w.handle e).2 := rfl
  cases rule with
  | told reported notDraw noSteps draws' seen' cycles' =>
    rw [reported] at told
    constructor
    · rw [sinceReport_of_told told, draws']
      rfl
    · rw [sinceReport_of_told told, cycles', seen']
      rfl
    · rw [drawsReported_concat, drawsIn_concat, told, event, if_neg notDraw, draws', ← allDraws]
      rfl
    · rw [stepsReported_concat, stepsIn_concat, told, done, noSteps, cycles', seen', Nat.add_zero,
        ← allSteps]
      simp only [Option.map_some, Option.getD_some]
      omega
  | counted unreported draws' seen' cycles' =>
    rw [unreported] at told
    constructor
    · rw [sinceReport_of_untold told, drawsIn_concat, event, draws', draws]
    · rw [sinceReport_of_untold told, stepsIn_concat, done, cycles', seen', steps, Nat.add_assoc]
    · rw [drawsReported_concat, drawsIn_concat, told, event, draws', ← allDraws]
      simp only [Option.map_none, Option.getD_none]
      omega
    · rw [stepsReported_concat, stepsIn_concat, told, done, cycles', seen']
      simp only [Option.map_none, Option.getD_none]
      omega

/-- A sequence of events keeps the tally. -/
lemma Tallied.handleAll (tallied : w.Tallied []) (events : List Event) :
    (w.handleAll events).Tallied (w.records events) := by
  induction events using List.reverseRecOn with
  | nil => exact tallied
  | append_singleton events e ih =>
    rw [handleAll_concat, records_concat]
    exact ih.handle e

/-- A new window has counted nothing, whatever steps its machine had made before. -/
lemma Tallied.of_start {m : Machine} {settings : WindowSettings} {pitches : Source Int}
    (opened : start m settings pitches = .ok w) : w.Tallied [] := by
  have new {w : Window} (draws : w.draws = 0) (seen : w.cyclesSeen = w.machine.cycles) :
      w.Tallied [] :=
    ⟨draws, seen.symm, (Nat.zero_add _).trans draws, by rw [seen, Int.sub_self]; rfl⟩
  have rule := startsTo_start m settings pitches
  rw [opened] at rule
  cases rule with
  | ownTimers => exact new rfl rfl
  | clockTimers => exact new rfl rfl

/-- Nothing is lost and nothing is counted twice. After a window was opened, whatever the events and
their order: the count of draws is that of the draws since the labels were told last, and the steps
that the machine has made beyond those seen are those that were done since then, also in a tick that
ended with a fault. The labels are told rates of these two numbers, and the counts begin anew; if
they cannot be told, as after no time at all, the counts stay. What the labels were told all in all
and what the counters hold make up the draws and the steps since the window was opened. -/
theorem every_draw_and_step_counted_once (m : Machine) (settings : WindowSettings)
    (pitches : Source Int) (w : Window) (opened : start m settings pitches = .ok w)
    (events : List Event) :
    let w' := w.handleAll events
    let past := w.records events
    let recent := sinceReport past
    w'.draws = drawsIn recent ∧ (w'.machine.cycles : Int) - w'.cyclesSeen = stepsIn recent ∧
    (∀ elapsed,
      let (w'', answer) := w'.handle (.tick .updateBench elapsed)
      (elapsed.isZero = true → ∃ e, answer = .error e) ∧
      (∀ e, answer = .error e → w''.draws = w'.draws ∧ w''.cyclesSeen = w'.cyclesSeen ∧
        w''.machine = w'.machine) ∧
      ∀ text, answer = .ok text → w''.draws = 0 ∧ w''.cyclesSeen = w''.machine.cycles ∧ ∃ fps cps,
        elapsed.under (drawsIn recent) = .ok fps ∧ w''.fpsText = "FPS: " ++ fps.oneDecimal ∧
        elapsed.under (stepsIn recent) >>= Double.toInt = .ok cps ∧
        w''.cpsText = "Cycles/s: " ++ toString cps) ∧
    drawsReported past + w'.draws = events.count .draw ∧
    stepsReported past + (w'.machine.cycles - w'.cyclesSeen) = stepsIn past := by
  intro w' past recent
  obtain ⟨draws, steps, allDraws, allSteps⟩ : w'.Tallied past :=
    (Tallied.of_start opened).handleAll events
  have pending : (w'.machine.cycles : Int) - w'.cyclesSeen = stepsIn recent := by
    rw [steps, Int.natCast_add, Int.add_comm, Int.add_sub_cancel]
  have total : drawsIn past = events.count .draw := by rw [drawsIn, map_event_records]
  refine ⟨draws, pending, ?_, allDraws.trans total, allSteps⟩
  intro elapsed
  have rule := w'.handlesTo_handle (.tick .updateBench elapsed)
  generalize w'.handle (.tick .updateBench elapsed) = result at rule ⊢
  cases rule with
  | noFps missing =>
    exact ⟨fun _ => ⟨_, rfl⟩, fun _ _ => ⟨rfl, rfl, rfl⟩, nofun⟩
  | noCps fps missing =>
    exact ⟨fun _ => ⟨_, rfl⟩, fun _ _ => ⟨rfl, rfl, rfl⟩, nofun⟩
  | told fps cps =>
    rw [draws] at fps
    rw [pending] at cps
    refine ⟨?_, nofun, fun _ _ => ⟨rfl, rfl, _, _, fps, rfl, cps, rfl⟩⟩
    intro zero
    obtain ⟨e, missing⟩ := elapsed.under_of_isZero zero (drawsIn recent)
    cases missing.symm.trans fps

/-- A machine that has made one step, in a window at a hundred steps a second. Two draws and a tick
of one step are told after a first attempt that fails; a third draw and the one step before the
fault that ends the next tick are pending. -/
theorem draws_and_steps_told :
    let m := ((Machine.fresh ⟨.bit, false, true⟩ false (.cycle 0 [])).performAll
      [.load (.bytes [0x12, 0x02, 0xA0, 0x00, 0xD0, 0x15, 0x00, 0xEE]), .step]).1
    let settings : WindowSettings := { cpuHz := .whole 100, scale := 1 }
    let events : List Event :=
      [.draw, .tick .cpuTick (.whole 0), .draw, .tick .updateBench (.whole 0),
      .tick .updateBench (.whole 2), .draw, .tick .cpuTick (.whole 1)]
    ∃ w, start m settings (.cycle 0 []) = .ok w ∧
      let w' := w.handleAll events
      let past := w.records events
      w'.pacer.halted = true ∧ drawsReported past = 2 ∧ stepsReported past = 1 ∧
        w'.draws = 1 ∧ (w'.machine.cycles : Int) - w'.cyclesSeen = 1 ∧ stepsIn past = 2 := by
  intro m settings events
  have counts := every_draw_and_step_counted_once m settings (.cycle 0 [])
  have run : (start m settings (.cycle 0 [])).toOption.any (fun w =>
      (w.handleAll events).pacer.halted && drawsReported (w.records events) == 2 &&
        stepsReported (w.records events) == 1 &&
        stepsIn (sinceReport (w.records events)) == 1) = true := by
    decide +kernel
  generalize start m settings (.cycle 0 []) = result at counts run
  cases result with
  | error failure => cases run
  | ok w =>
    simp only [Except.toOption, Option.any_some, Bool.and_eq_true, beq_iff_eq] at run
    obtain ⟨⟨⟨halted, drawsTold⟩, stepsTold⟩, done⟩ := run
    obtain ⟨_, pending, _, allDraws, allSteps⟩ := counts w rfl events
    rw [drawsTold] at allDraws
    rw [done] at pending
    rw [stepsTold, pending] at allSteps
    have draws : 2 + (w.handleAll events).draws = 3 := allDraws
    exact ⟨w, rfl, halted, drawsTold, stepsTold, by omega, pending, by omega⟩

end Window

end Chip8
