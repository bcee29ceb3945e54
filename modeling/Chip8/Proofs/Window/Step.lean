import Mathlib.Tactic.Lemma
import Chip8.Window.Event

/-!
# One event

`StartsTo` lists what opening a window can come to and `HandlesTo` what an event can come to, as
rules. The functions `start` and `handle` follow the rules (`startsTo_start`, `handlesTo_handle`),
so what every event keeps is proved by cases on a rule, and what a sequence of events keeps by
induction on the sequence (`handleAll_of_handlesTo`).
-/

namespace Chip8.Window

/-! ## Opening -/

/-- The first request of a window. -/
def opening (settings : WindowSettings) : Call :=
  .openWindow (Layout.width * settings.scale) (Layout.height * settings.scale) settings.caption

/-- A window with its image and its labels, before the clock is asked to run steps. -/
def furnished (pacer : Pacer) (settings : WindowSettings) (pitches : Source Int)
    (picture : Picture) : Window :=
  let width := Layout.width * settings.scale
  let height := Layout.height * settings.scale
  (base pacer width height pitches).ask
    [opening settings, .createImage width height picture,
      .createLabel (labelBelow height initialFps 15),
      .createLabel (labelBelow height initialCps 30), .schedule .updateBench oneSecond]

/-- The window with a task that the clock does at an interval. -/
def scheduled (w : Window) (task : Task) (seconds : Double) : Window :=
  { w with schedule := w.schedule ++ [(task, seconds)] }.ask [.schedule task seconds]

/-- What opening a window comes to. -/
inductive StartsTo (m : Machine) (settings : WindowSettings) (pitches : Source Int) :
    Except OpenFailure Window → Prop where
  /-- The machine cannot run at the rate. -/
  | rateNotPositive :
    settings.cpuHz.atMostZero = true →
    StartsTo m settings pitches (.error ⟨.rateNotPositive settings.cpuHz, [opening settings]⟩)
  /-- The screen cannot be shown at the scale. -/
  | noPicture {e} :
    settings.cpuHz.atMostZero = false →
    Picture.render m.screen.grid settings.scale = .error e →
    StartsTo m settings pitches (.error ⟨.picture e, [opening settings]⟩)
  /-- A rate has no interval. -/
  | noInterval {e calls} :
    interval settings.cpuHz = .error e ∨ interval settings.timerHz = .error e →
    StartsTo m settings pitches (.error ⟨.arithmetic e, calls⟩)
  /-- The machine ticks its timers itself. -/
  | ownTimers {picture seconds} (positive : settings.cpuHz.atMostZero = false) :
    Picture.render m.screen.grid settings.scale = .ok picture →
    interval settings.cpuHz = .ok seconds →
    m.options.timersPerStep = true →
    StartsTo m settings pitches
      (.ok ((furnished ⟨m, settings.cpuHz, positive, settings.scale, false, none, rfl⟩
        settings pitches picture).scheduled .cpuTick seconds))
  /-- The clock ticks the timers. -/
  | clockTimers {picture seconds timerSeconds} (positive : settings.cpuHz.atMostZero = false) :
    Picture.render m.screen.grid settings.scale = .ok picture →
    interval settings.cpuHz = .ok seconds →
    interval settings.timerHz = .ok timerSeconds →
    m.options.timersPerStep = false →
    StartsTo m settings pitches
      (.ok (((furnished ⟨m, settings.cpuHz, positive, settings.scale, false, none, rfl⟩
        settings pitches picture).scheduled .cpuTick seconds).scheduled .timerTick timerSeconds))

/-- A task is scheduled if its rate has an interval. -/
lemma addTask_eq (w : Window) (task : Task) (rate : Quantity) :
    w.addTask task rate =
      match interval rate with
      | .error e => .error ⟨.arithmetic e, w.calls.reverse⟩
      | .ok seconds => .ok (w.scheduled task seconds) := rfl

/-- Opening a window follows the rules. -/
lemma startsTo_start (m : Machine) (settings : WindowSettings) (pitches : Source Int) :
    StartsTo m settings pitches (start m settings pitches) := by
  rw [start, Pacer.start]
  split
  · next notPositive => exact .rateNotPositive notPositive
  · next more =>
    have positive : settings.cpuHz.atMostZero = false := Bool.eq_false_iff.2 more
    -- The rate is accepted, so what is left is the picture and one or two tasks of the clock.
    let pacer : Pacer := ⟨m, settings.cpuHz, positive, settings.scale, false, none, rfl⟩
    show StartsTo m settings pitches (do
      let picture ← (Picture.render m.screen.grid settings.scale).mapError fun e =>
        ⟨.picture e, [opening settings]⟩
      let window ← (furnished pacer settings pitches picture).addTask .cpuTick settings.cpuHz
      if m.options.timersPerStep then return window else window.addTask .timerTick settings.timerHz)
    cases rendered : Picture.render m.screen.grid settings.scale with
    | error e => exact .noPicture positive rendered
    | ok picture =>
      show StartsTo m settings pitches (do
        let window ← (furnished pacer settings pitches picture).addTask .cpuTick settings.cpuHz
        if m.options.timersPerStep then return window
        else window.addTask .timerTick settings.timerHz)
      rw [addTask_eq]
      cases steps : interval settings.cpuHz with
      | error e => exact .noInterval (.inl steps)
      | ok seconds =>
        show StartsTo m settings pitches (if m.options.timersPerStep then _ else _)
        split
        · next own => exact .ownTimers positive rendered steps own
        · next notOwn =>
          have clock : m.options.timersPerStep = false := Bool.eq_false_iff.2 notOwn
          rw [addTask_eq]
          cases timers : interval settings.timerHz with
          | error e => exact .noInterval (.inr timers)
          | ok timerSeconds => exact .clockTimers positive rendered steps timers clock

/-! ## Events -/

/-- What an event comes to: the window afterwards, and what is told to the user or the error that
the clock gets. -/
inductive HandlesTo (w : Window) : Event → Window × Except HostError String → Prop where
  /-- The clock calls for steps after the window was closed, and nothing happens. -/
  | late {elapsed} :
    w.exited = true →
    w.HandlesTo (.tick .cpuTick elapsed) (w, .ok "")
  /-- The clock gets an error. -/
  | raised {elapsed pacer e} :
    w.exited = false →
    w.pacer.tick elapsed = (pacer, .error e) →
    w.HandlesTo (.tick .cpuTick elapsed) ({ w with pacer }, .error e)
  /-- The machine has stopped, which closes the window. -/
  | stopped {elapsed pacer answer} :
    w.exited = false →
    w.pacer.tick elapsed = (pacer, .ok answer) →
    pacer.halted = true →
    w.HandlesTo (.tick .cpuTick elapsed) ({ w with pacer }.requestClose, .ok answer.report)
  /-- The steps are done, and there is no new picture. -/
  | unchanged {elapsed pacer answer} :
    w.exited = false →
    w.pacer.tick elapsed = (pacer, .ok answer) →
    pacer.halted = false →
    answer.picture? = none →
    w.HandlesTo (.tick .cpuTick elapsed) ({ w with pacer }.updateSound, .ok "")
  /-- The steps are done, and the image gets the new picture. -/
  | shown {elapsed pacer answer picture} :
    w.exited = false →
    w.pacer.tick elapsed = (pacer, .ok answer) →
    pacer.halted = false →
    answer.picture? = some picture →
    w.HandlesTo (.tick .cpuTick elapsed)
      (({ w with pacer }.ask [.setPicture (w.width * 4) picture]).updateSound, .ok "")
  /-- The clock ticks the timers, even after the window was closed. -/
  | timers {elapsed} :
    w.HandlesTo (.tick .timerTick elapsed) (w.withMachine w.machine.tickTimers, .ok "")
  /-- The draws per second cannot be told. -/
  | noFps {elapsed e} :
    elapsed.under w.draws = .error e →
    w.HandlesTo (.tick .updateBench elapsed) (w, .error (.arithmetic e))
  /-- The draws per second are told, but the steps per second cannot be. -/
  | noCps {elapsed fps e} :
    elapsed.under w.draws = .ok fps →
    elapsed.under (w.machine.cycles - w.cyclesSeen) >>= Double.toInt = .error e →
    w.HandlesTo (.tick .updateBench elapsed) ({ w with fpsText := "FPS: " ++ fps.oneDecimal },
      .error (.arithmetic e))
  /-- Both are told, and the counts begin anew. -/
  | told {elapsed fps cps} :
    elapsed.under w.draws = .ok fps →
    elapsed.under (w.machine.cycles - w.cyclesSeen) >>= Double.toInt = .ok cps →
    w.HandlesTo (.tick .updateBench elapsed)
      ({ w with
          fpsText := "FPS: " ++ fps.oneDecimal
          cpsText := "Cycles/s: " ++ toString cps
          draws := 0
          cyclesSeen := w.machine.cycles }, .ok "")
  | drawn :
    w.HandlesTo .draw (w.draw, .ok "")
  | escaped :
    w.HandlesTo (.keyPress Keyboard.escape) (w.requestClose, .ok "")
  | toggled :
    w.HandlesTo (.keyPress Keyboard.toggleLogging) (w.toggleLogging.1, .ok w.toggleLogging.2)
  | pressed {symbol k} :
    symbol ≠ Keyboard.escape →
    symbol ≠ Keyboard.toggleLogging →
    Keyboard.key? symbol = some k →
    w.HandlesTo (.keyPress symbol) (w.withMachine (w.machine.setDown k true), .ok "")
  /-- A key of the keyboard that is none of the keypad. -/
  | pressedOther {symbol} :
    symbol ≠ Keyboard.escape →
    symbol ≠ Keyboard.toggleLogging →
    Keyboard.key? symbol = none →
    w.HandlesTo (.keyPress symbol) (w, .ok "")
  | released {symbol k} :
    Keyboard.key? symbol = some k →
    w.HandlesTo (.keyRelease symbol) (w.withMachine (w.machine.setDown k false), .ok "")
  | releasedOther {symbol} :
    Keyboard.key? symbol = none →
    w.HandlesTo (.keyRelease symbol) (w, .ok "")
  | closed :
    w.HandlesTo .close (w.requestClose, .ok "")
  | ended {player} :
    w.HandlesTo (.playerEnded player) ({ w with soundPlaying := false }.ask [.deletePlayer player],
      .ok "")

/-- A tick of the steps follows the rules. -/
lemma handlesTo_cpuTick (w : Window) (elapsed : Quantity) :
    w.HandlesTo (.tick .cpuTick elapsed) (w.cpuTick elapsed) := by
  rw [cpuTick]
  split
  · next exited => exact .late exited
  · next notExited =>
    have exited : w.exited = false := Bool.eq_false_iff.2 notExited
    cases ticked : w.pacer.tick elapsed with
    | mk pacer result =>
      cases result with
      | error e => exact .raised exited ticked
      | ok answer =>
        cases halted : pacer.halted with
        | true =>
          simp only [halted, if_true]
          exact .stopped exited ticked halted
        | false =>
          simp only [halted, Bool.false_eq_true, if_false]
          split
          · next shown => exact .shown exited ticked halted shown
          · next unchanged => exact .unchanged exited ticked halted unchanged

/-- A report follows the rules. -/
lemma handlesTo_updateBench (w : Window) (elapsed : Quantity) :
    w.HandlesTo (.tick .updateBench elapsed) (w.updateBench elapsed) := by
  rw [updateBench]
  split
  · next noFps => exact .noFps noFps
  · next fps =>
    dsimp only
    split
    · next noCps => exact .noCps fps noCps
    · next cps => exact .told fps cps

/-- A key that goes down follows the rules. -/
lemma handlesTo_keyPress (w : Window) (symbol : Int) :
    w.HandlesTo (.keyPress symbol) ((w.keyPress symbol).1, .ok (w.keyPress symbol).2) := by
  rw [keyPress]
  split
  · next escape => exact escape ▸ .escaped
  · next notEscape =>
    split
    · next toggle => exact toggle ▸ .toggled
    · next notToggle =>
      split
      · next key => exact .pressed notEscape notToggle key
      · next other => exact .pressedOther notEscape notToggle other

/-- A key that goes up follows the rules. -/
lemma handlesTo_keyRelease (w : Window) (symbol : Int) :
    w.HandlesTo (.keyRelease symbol) (w.keyRelease symbol, .ok "") := by
  rw [keyRelease]
  split
  · next key => exact .released key
  · next other => exact .releasedOther other

/-- Every event follows the rules. -/
lemma handlesTo_handle (w : Window) (e : Event) : w.HandlesTo e (w.handle e) := by
  cases e with
  | tick task elapsed =>
    cases task with
    | cpuTick => exact handlesTo_cpuTick w elapsed
    | timerTick => exact .timers
    | updateBench => exact handlesTo_updateBench w elapsed
  | draw => exact .drawn
  | keyPress symbol => exact handlesTo_keyPress w symbol
  | keyRelease symbol => exact handlesTo_keyRelease w symbol
  | close => exact .closed
  | playerEnded player => exact .ended

/-- One more event comes behind the others. -/
lemma handleAll_concat (w : Window) (events : List Event) (e : Event) :
    w.handleAll (events ++ [e]) = ((w.handleAll events).handle e).1 := by
  rw [handleAll, List.foldl_append]
  rfl

/-- What every event keeps, every sequence of events keeps. -/
lemma handleAll_of_handlesTo {P : Window → Prop} {w : Window} (start : P w)
    (step : ∀ {w e result}, P w → w.HandlesTo e result → P result.1) (events : List Event) :
    P (w.handleAll events) := by
  rw [handleAll]
  induction events generalizing w with
  | nil => exact start
  | cons e events ih => exact ih (step start (w.handlesTo_handle e))

end Chip8.Window
