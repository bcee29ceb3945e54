import Chip8.Proofs.Pacer.Tick
import Chip8.Proofs.Window.Step

/-!
# Closing

A window is closed by a key, by a request of the display, or by a fault in the middle of a tick, and
the clock may still call it afterwards. `Orderly` is the invariant: what is scheduled follows from
whether the window is closed, and a window whose machine has halted is closed. `Frozen` says what
becomes of a closed window: the keys, the timers and the switch of the log may change, nothing else
of the machine does. Both are kept by every event, whichever it is (`Orderly.of_handlesTo`,
`Frozen.of_handlesTo`).
-/

namespace Chip8

namespace Window

variable {own : Bool} {w w' : Window} {e : Event} {result : Window × Except HostError String}
  {f : Fault}

/-! ## What is scheduled -/

/-- What every window keeps to, around a machine that owns its timers or not. -/
structure Orderly (own : Bool) (w : Window) : Prop where
  /-- As long as it is open, the clock does its tasks, and it ticks the timers if the machine does
  not do it itself. -/
  tasks : w.schedule.map Prod.fst =
    if w.exited then [] else [.updateBench, .cpuTick] ++ if own then [] else [.timerTick]
  closed : w.pacer.halted = true → w.exited = true

/-- A window that is closed has nothing scheduled. -/
lemma schedule_requestClose (w : Window) : w.requestClose.schedule = [] := by
  refine List.filter_eq_nil_iff.2 ?_
  rintro ⟨task, seconds⟩ _
  cases task with
  | cpuTick | timerTick | updateBench => simp

/-- A window keeps to the order when it is closed. -/
lemma Orderly.requestClose (w : Window) : w.requestClose.Orderly own where
  tasks := by
    rw [schedule_requestClose]
    rfl
  closed _ := rfl

/-- It keeps to the order if neither the schedule nor the machine's halt changes. -/
lemma Orderly.of_same (orderly : w.Orderly own) (schedule : w'.schedule = w.schedule)
    (exited : w'.exited = w.exited) (halted : w'.pacer.halted = true → w.pacer.halted = true) :
    w'.Orderly own where
  tasks := by
    rw [schedule, exited]
    exact orderly.tasks
  closed stopped := by
    rw [exited]
    exact orderly.closed (halted stopped)

/-- The sound touches the player, the pitches and the requests alone. -/
lemma updateSound_eq (w : Window) :
    w.updateSound =
      { w with
        soundPlaying := w.updateSound.soundPlaying
        players := w.updateSound.players
        pitches := w.updateSound.pitches
        calls := w.updateSound.calls } := by
  rw [updateSound]
  split
  · rfl
  · rfl

/-- Every event keeps the order. -/
lemma Orderly.of_handlesTo (orderly : w.Orderly own) (rule : w.HandlesTo e result) :
    result.1.Orderly own := by
  cases rule with
  | @raised _ pacer _ _ ticked =>
    refine orderly.of_same rfl rfl ?_
    -- An error comes without a fault, so the machine has halted only if it had before.
    intro stopped
    obtain ⟨f, fault⟩ := (Pacer.halted_iff _).1 stopped
    rcases (Pacer.fault_of_tick ticked).1 fault with before | failed
    · exact (Pacer.halted_iff _).2 ⟨f, before⟩
    · cases failed
  | stopped | escaped | closed => exact .requestClose _
  | unchanged _ _ running _ | shown _ _ running _ =>
    rw [updateSound_eq]
    exact orderly.of_same rfl rfl fun halted => nomatch running.symm.trans halted
  | _ => exact orderly.of_same rfl rfl id

/-- A window keeps to the order from the moment it opens. -/
lemma Orderly.of_start {m : Machine} {settings : WindowSettings} {pitches : Source Int}
    (opened : start m settings pitches = .ok w) : w.Orderly m.options.timersPerStep := by
  have rule := startsTo_start m settings pitches
  rw [opened] at rule
  cases rule with
  | ownTimers _ _ _ own =>
    rw [own]
    exact ⟨rfl, nofun⟩
  | clockTimers _ _ _ _ clock =>
    rw [clock]
    exact ⟨rfl, nofun⟩

/-! ## After the end -/

/-- What is left as it was after a window was closed. Its machine makes no step: what may change are
the timers, which a late call of the clock ticks, the keys, and whether it logs. -/
structure Frozen (w w' : Window) : Prop where
  exited : w'.exited = true
  schedule : w'.schedule = []
  machine : ∃ delay sound keys logging, w'.machine =
    { w.machine with delayTimer := delay, soundTimer := sound, keys := keys, logging := logging }
  fault : w'.pacer.fault = w.pacer.fault
  players : w'.players = w.players

/-- It is left so if its machine is replaced by one with other timers, other keys or another switch
of the log. -/
lemma Frozen.withMachine {m : Machine} (frozen : w.Frozen w')
    (same : ∃ delay sound keys logging, m =
      { w'.machine with
        delayTimer := delay, soundTimer := sound, keys := keys, logging := logging }) :
    w.Frozen (w'.withMachine m) := by
  obtain ⟨exited, schedule, ⟨_, _, _, _, machine⟩, fault, players⟩ := frozen
  obtain ⟨delay, sound, keys, logging, rfl⟩ := same
  refine ⟨exited, schedule, ⟨delay, sound, keys, logging, ?_⟩, fault, players⟩
  rw [machine]
  rfl

/-- An event changes nothing of a closed window that it should not. -/
lemma Frozen.of_handlesTo (frozen : w.Frozen w') (rule : w'.HandlesTo e result) :
    w.Frozen result.1 := by
  cases rule with
  | raised opened | stopped opened | unchanged opened | shown opened =>
    cases frozen.exited.symm.trans opened
  | timers | toggled | pressed | released => exact frozen.withMachine ⟨_, _, _, _, rfl⟩
  | escaped | closed =>
    exact ⟨rfl, schedule_requestClose _, frozen.machine, frozen.fault, frozen.players⟩
  | _ => exact ⟨frozen.exited, frozen.schedule, frozen.machine, frozen.fault, frozen.players⟩

/-! ## Faults -/

/-- An event in which a step fails. -/
inductive Fails (w : Window) (f : Fault) : Event → Prop where
  | tick {elapsed pacer} :
    w.exited = false →
    w.pacer.tick elapsed = (pacer, .ok (.failed f)) →
    w.Fails f (.tick .cpuTick elapsed)

/-- A step fails in a tick of an open window if this is what came of the tick. -/
lemma fails_tick_iff {elapsed : Quantity} {pacer : Pacer} {answer : Except HostError Tick}
    (opened : w.exited = false) (ticked : w.pacer.tick elapsed = (pacer, answer)) :
    w.Fails f (.tick .cpuTick elapsed) ↔ answer = .ok (.failed f) := by
  constructor
  · rintro ⟨_, failed⟩
    rw [ticked] at failed
    exact congrArg Prod.snd failed
  · rintro rfl
    exact .tick opened ticked

/-- After an event the fault is the one from before, or that of a step that failed. -/
lemma fault_of_handlesTo (rule : w.HandlesTo e result) :
    result.1.pacer.fault = some f ↔ w.pacer.fault = some f ∨ w.Fails f e := by
  cases rule with
  | late exited =>
    refine ⟨.inl, fun known => known.resolve_right ?_⟩
    rintro ⟨opened, _⟩
    cases exited.symm.trans opened
  | raised opened ticked | stopped opened ticked =>
    rw [fails_tick_iff opened ticked]
    exact Pacer.fault_of_tick ticked
  | unchanged opened ticked | shown opened ticked =>
    rw [fails_tick_iff opened ticked, updateSound_eq]
    exact Pacer.fault_of_tick ticked
  | _ => exact ⟨.inl, fun known => known.resolve_right nofun⟩

/-- A window opens without a fault. -/
lemma fault_of_start {m : Machine} {settings : WindowSettings} {pitches : Source Int}
    (opened : start m settings pitches = .ok w) : w.pacer.fault = none := by
  have rule := startsTo_start m settings pitches
  rw [opened] at rule
  cases rule with
  | ownTimers => rfl
  | clockTimers => rfl

/-- After a sequence of events the fault is the one from before, or that of a step that failed in
one of them. -/
lemma fault_handleAll (w : Window) (events : List Event) :
    (w.handleAll events).pacer.fault = some f ↔
      w.pacer.fault = some f ∨
      ∃ before e after, events = before ++ e :: after ∧ (w.handleAll before).Fails f e := by
  -- Induction from the front: what fails later fails in the window after the first event.
  induction events generalizing w with
  | nil => exact ⟨.inl, fun known => known.resolve_right (by simp)⟩
  | cons first events ih =>
    have now := fault_of_handlesTo (f := f) (w.handlesTo_handle first)
    rw [handleAll, List.foldl_cons, ← handleAll, ih, now]
    constructor
    · rintro ((known | fails) | ⟨before, e, after, rfl, fails⟩)
      · exact .inl known
      · exact .inr ⟨[], first, events, rfl, fails⟩
      · exact .inr ⟨first :: before, e, after, rfl, fails⟩
    · rintro (known | ⟨before, e, after, parts, fails⟩)
      · exact .inl (.inl known)
      · cases before with
        | nil =>
          cases parts
          exact .inl (.inr fails)
        | cons _ before =>
          cases parts
          exact .inr ⟨before, e, after, rfl, fails⟩

/-! ## Closing -/

/-- A window closes for good. Whatever the events, in any order: as long as it is open, the clock
does exactly its tasks, the timers among them if the machine does not tick them itself. Once it is
closed it stays closed, nothing is scheduled, and no later event makes the machine step or makes a
player; what else of the machine may change are the timers, the keys and the switch of the log. A
machine that has halted has closed the window, and it has halted exactly if a step has failed, with
the fault of that step. -/
theorem closes_for_good (m : Machine) (settings : WindowSettings) (pitches : Source Int)
    (w : Window) (opened : start m settings pitches = .ok w) (events : List Event) :
    let w' := w.handleAll events
    (w'.exited = false →
      w'.schedule.map Prod.fst = [.updateBench, .cpuTick] ++
        if m.options.timersPerStep then [] else [.timerTick]) ∧
    (w'.exited = true → ∀ later, w'.Frozen (w'.handleAll later)) ∧
    (w'.pacer.halted = true → w'.exited = true) ∧
    (w'.pacer.halted = true ↔ ∃ f, w'.pacer.fault = some f) ∧
    ∀ f, w'.pacer.fault = some f ↔
      ∃ before e after, events = before ++ e :: after ∧ (w.handleAll before).Fails f e := by
  intro w'
  have orderly : w'.Orderly m.options.timersPerStep :=
    handleAll_of_handlesTo (.of_start opened) .of_handlesTo events
  refine ⟨?_, ?_, orderly.closed, w'.pacer.halted_iff, ?_⟩
  · intro isOpen
    have tasks := orderly.tasks
    rw [isOpen, if_neg Bool.false_ne_true] at tasks
    exact tasks
  · intro exited later
    have tasks := orderly.tasks
    rw [if_pos exited] at tasks
    have now : w'.Frozen w' :=
      ⟨exited, List.map_eq_nil_iff.1 tasks, ⟨_, _, _, _, rfl⟩, rfl, rfl⟩
    exact handleAll_of_handlesTo now .of_handlesTo later
  · intro f
    have running : w.pacer.fault = none := fault_of_start opened
    rw [fault_handleAll, running]
    exact or_iff_right nofun

/-- A machine whose first instruction is a return without a call, in a window whose clock ticks the
timers. The first tick of the steps closes the window, and calls of the clock that come late, keys
and the end of a tone change nothing but the timers and the keys. -/
theorem stray_return_closes :
    let m :=
      ((Machine.fresh ⟨.bit, false, false⟩ false (.cycle 0 [])).performAll
      [.load (.bytes [0x00, 0xEE])]).1
    let events : List Event := [.draw, .keyPress 119, .tick .cpuTick (.whole 1)]
    ∃ w, start m {} (.cycle 0 []) = .ok w ∧
      w.schedule.map Prod.fst = [.updateBench, .cpuTick, .timerTick] ∧
      let w' := w.handleAll events
      w'.exited = true ∧
        (∃ f before e after, events = before ++ e :: after ∧ (w.handleAll before).Fails f e) ∧
        w'.Frozen (w'.handleAll
          [.tick .cpuTick (.whole 1), .tick .timerTick (.whole 1), .keyRelease 119,
          .playerEnded 0, .close]) := by
  intro m events
  have closes := closes_for_good m {} (.cycle 0 [])
  have run : (start m {} (.cycle 0 [])).toOption.any (fun w =>
      !w.exited && (w.handleAll events).pacer.halted) = true := by
    decide +kernel
  generalize start m {} (.cycle 0 []) = result at closes run
  cases result with
  | error failure => cases run
  | ok w =>
    simp only [Except.toOption, Option.any_some, Bool.and_eq_true, Bool.not_eq_true'] at run
    obtain ⟨isOpen, halted⟩ := run
    obtain ⟨tasks, _⟩ := closes w rfl []
    obtain ⟨_, frozen, closed, known, failed⟩ := closes w rfl events
    obtain ⟨f, fault⟩ := known.1 halted
    exact ⟨w, rfl, tasks isOpen, closed halted, ⟨f, (failed f).1 fault⟩, frozen (closed halted) _⟩

end Window

end Chip8
