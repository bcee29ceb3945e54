import Chip8.Machine.Operation
import Chip8.Proofs.Machine.Rest
import Chip8.Proofs.Pacer.Tick

/-!
# Batches of steps

A host that ticks a pacer runs the steps of its machine in batches. However the steps are split into
ticks, the machine goes the same way but for the request for a redraw, which a tick answers:
`Matches.foldl_act` compares the pacer with a machine that makes the steps one by one and stops at
the first that fails (`proceed`). `batching_invisible` collects what a tick does, what a sequence of
ticks and calls does, and what is left after a fault.
-/

namespace Chip8

/-! ## How many steps -/

namespace Double

/-- Whether a number is finite. -/
def isFinite : Double → Bool
  | finite .. => true
  | _ => false

/-- A finite number is rounded to an integer. -/
lemma exists_round {d : Double} (finite : d.isFinite = true) : ∃ n, d.round = .ok n := by
  cases d with
  | finite negative mantissa exponent => exact ⟨_, rfl⟩
  | infinite negative => cases finite
  | nan => cases finite

end Double

namespace Quantity

/-- Whether the product of two numbers is finite. Whole numbers have a product of any size. -/
def timesFinite : Quantity → Quantity → Bool
  | whole _, whole _ => true
  | a, b =>
    match a.toDouble, b.toDouble with
    | .ok x, .ok y => (x.mul y).isFinite
    | _, _ => false

/-- A finite product is rounded to an integer. -/
lemma exists_roundedTimes {a b : Quantity} (finite : a.timesFinite b = true) :
    ∃ n, a.roundedTimes b = .ok n := by
  -- Unless both are whole, both become floating-point numbers first, in whichever order they stand.
  have product (x y : Except ArithmeticError Double)
      (finite : (match x, y with | .ok x, .ok y => (x.mul y).isFinite | _, _ => false) = true) :
      ∃ n, (do let x ← x; let y ← y; (x.mul y).round) = .ok n := by
    cases x with
    | error e => cases finite
    | ok x =>
      cases y with
      | error e => cases finite
      | ok y => exact Double.exists_round finite
  cases a with
  | real d => exact product _ _ finite
  | whole n =>
    cases b with
    | real d => exact product _ _ finite
    | whole k => exact ⟨_, rfl⟩

end Quantity

namespace Pacer

variable {p : Pacer} {elapsed : Quantity} {rate : Int}

/-- At a whole number of steps a second, a tick whose product of time and rate is finite runs at
least one step. -/
lemma exists_stepsFor (whole : p.cpuHz = .whole rate)
    (finite : elapsed.timesFinite p.cpuHz = true) :
    ∃ n : Nat, 1 ≤ n ∧ p.stepsFor elapsed = .ok (.whole n) := by
  obtain ⟨steps, rounded⟩ := Quantity.exists_roundedTimes finite
  have most : p.maxSteps = .whole (max 1 (rate / 10)) := by rw [maxSteps, whole]
  have bound : 1 ≤ min (max 1 (rate / 10)) (max 1 steps) := by omega
  refine ⟨(min (max 1 (rate / 10)) (max 1 steps)).toNat, by omega, ?_⟩
  rw [stepsFor, rounded, Int.toNat_of_nonneg (by omega)]
  show Except.ok (p.clamp steps) = _
  rw [clamp, most]

/-- The number of steps of a tick depends on the rate alone. -/
lemma stepsFor_of_cpuHz_eq {q : Pacer} (same : q.cpuHz = p.cpuHz) :
    q.stepsFor elapsed = p.stepsFor elapsed := by
  have clamps : q.clamp = p.clamp := by
    funext steps
    simp only [clamp, maxSteps, same]
  rw [stepsFor, stepsFor, same, clamps]

end Pacer

/-! ## Steps one by one -/

namespace Machine

variable {m m' : Machine}

/-- One operation on a machine that makes no more steps once one of them has failed. -/
def proceed (state : Machine × Option Fault) : Operation → Machine × Option Fault
  | .step => if state.2.isSome then state else state.1.step
  | operation => ((state.1.perform operation).1, state.2)

/-- After a fault no step is made. -/
lemma foldl_proceed_of_fault (f : Fault) (count : Nat) :
    (List.replicate count .step).foldl proceed (m, some f) = (m, some f) := by
  induction count with
  | zero => rfl
  | succ count ih => exact ih

/-- Steps made one by one are a run of steps. -/
lemma foldl_proceed_steps (count : Nat) :
    (List.replicate count .step).foldl proceed (m, none) = m.steps count := by
  induction count generalizing m with
  | zero => rfl
  | succ count ih =>
    rw [List.replicate_succ, List.foldl_cons]
    show (List.replicate count .step).foldl proceed m.step = _
    cases first : m.step.2 with
    | none =>
      rw [steps_of_done first, ← ih, ← first]
    | some f =>
      rw [steps_of_fails first, ← foldl_proceed_of_fault f count, ← first]

/-- Machines that differ in the request for a redraw alone still do after a run of steps, and fail
alike. -/
lemma steps_of_clearRedraw_eq (same : m.clearRedraw = m'.clearRedraw) (count : Nat) :
    (m.steps count).1.clearRedraw = (m'.steps count).1.clearRedraw ∧
    (m.steps count).2 = (m'.steps count).2 := by
  induction count generalizing m m' with
  | zero => exact ⟨same, rfl⟩
  | succ count ih =>
    obtain ⟨machines, faults⟩ := step_of_clearRedraw_eq same
    cases first : m.step.2 with
    | none =>
      rw [steps_of_done first, steps_of_done (faults ▸ first)]
      exact ih machines
    | some f =>
      rw [steps_of_fails first, steps_of_fails (faults ▸ first)]
      exact ⟨machines, rfl⟩

end Machine

/-! ## Ticks and calls -/

/-- What a host does with a machine that is paced. -/
inductive HostAct where
  | tick (elapsed : Quantity)
  | pressKey (key : Value)
  | releaseKey (key : Value)
  | tickTimers
deriving Repr

namespace Pacer

variable {p q : Pacer} {elapsed : Quantity} {rate : Int}

/-- The pacer after an operation on its machine. -/
def call (p : Pacer) (operation : Operation) : Pacer :=
  { p with machine := (p.machine.perform operation).1 }

/-- The pacer after something that a host does. -/
def act (p : Pacer) : HostAct → Pacer
  | .tick elapsed => (p.tick elapsed).1
  | .pressKey key => p.call (.pressKey key)
  | .releaseKey key => p.call (.releaseKey key)
  | .tickTimers => p.call .tickTimers

/-- The same in operations on the machine: for a tick, as many steps as it has. -/
def operations (p : Pacer) : HostAct → List Operation
  | .tick elapsed =>
    match p.stepsFor elapsed with
    | .ok (.whole n) => List.replicate n.toNat .step
    | _ => []
  | .pressKey key => [.pressKey key]
  | .releaseKey key => [.releaseKey key]
  | .tickTimers => [.tickTimers]

/-- Whether the ticks of a host have finite products of time and rate. -/
def Countable (p : Pacer) (acts : List HostAct) : Prop :=
  ∀ elapsed, HostAct.tick elapsed ∈ acts → elapsed.timesFinite p.cpuHz = true

/-- A pacer and a machine that makes its steps one by one have come to the same, but for a request
for a redraw. -/
structure Matches (p : Pacer) (state : Machine × Option Fault) : Prop where
  machine : p.machine.clearRedraw = state.1.clearRedraw
  fault : p.fault = state.2

/-- Nothing that a host does changes the rate. -/
lemma cpuHz_act (p : Pacer) (a : HostAct) : (p.act a).cpuHz = p.cpuHz := by
  cases a with
  | tick elapsed =>
    have rule := p.ticksTo_tick elapsed
    rw [act]
    generalize p.tick elapsed = result at rule ⊢
    cases rule with
    | _ => rfl
  | _ => rfl

/-- What a tick leaves is what its run of steps leaves, but for a request for a redraw. -/
lemma matches_tick {n : Int} (running : p.halted = false)
    (counted : p.stepsFor elapsed = .ok (.whole n)) :
    (p.tick elapsed).1.Matches (p.machine.steps n.toNat) := by
  cases run : p.machine.steps n.toNat with
  | mk m fault =>
    cases fault with
    | some f =>
      rw [tick_of_fails running counted run]
      exact ⟨rfl, rfl⟩
    | none =>
      rw [tick_of_completes running counted run, refresh]
      split
      · exact ⟨rfl, fault_of_running running⟩
      · exact ⟨rfl, fault_of_running running⟩

/-- A call is the same operation for both. -/
lemma Matches.call {state : Machine × Option Fault} (same : p.Matches state) {operation : Operation}
    (kept : ∀ m : Machine, (m.perform operation).1.clearRedraw =
      (m.clearRedraw.perform operation).1.clearRedraw) :
    (p.call operation).Matches ((state.1.perform operation).1, state.2) := by
  refine ⟨?_, same.fault⟩
  show (p.machine.perform operation).1.clearRedraw = (state.1.perform operation).1.clearRedraw
  rw [kept p.machine, same.machine, ← kept]

/-- A key moves alike whether a redraw is asked for or not. -/
lemma clearRedraw_moveKey (m : Machine) (key : Value) (down : Bool) :
    (m.moveKey key down).1.clearRedraw = (m.clearRedraw.moveKey key down).1.clearRedraw := by
  rw [Machine.moveKey, Machine.moveKey]
  cases Machine.keys? key with
  | none => rfl
  | some keys => rfl

/-- What a host does comes to the same for both. -/
lemma Matches.act {state : Machine × Option Fault} (same : p.Matches state)
    (whole : p.cpuHz = .whole rate) {a : HostAct} (countable : p.Countable [a]) :
    (p.act a).Matches ((p.operations a).foldl Machine.proceed state) := by
  cases a with
  | tick elapsed =>
    obtain ⟨n, _, counted⟩ := exists_stepsFor whole (countable elapsed (List.mem_singleton_self _))
    obtain ⟨m, fault⟩ := state
    rw [operations, counted]
    cases fault with
    | some f =>
      -- The tick does nothing, and none of its steps is made.
      have stopped : p.halted = true := by rw [p.halted_eq, same.fault]; rfl
      rw [Machine.foldl_proceed_of_fault, Pacer.act, tick_of_halted stopped]
      exact same
    | none =>
      -- The pacer runs its steps from a machine that may lack the request for a redraw that the
      -- other one has.
      have running : p.halted = false := by rw [p.halted_eq, same.fault]; rfl
      obtain ⟨machine, fault⟩ := matches_tick running counted
      obtain ⟨machines, faults⟩ := Machine.steps_of_clearRedraw_eq same.machine (n : Int).toNat
      rw [Machine.foldl_proceed_steps]
      exact ⟨machine.trans machines, fault.trans faults⟩
  | pressKey key => exact same.call (clearRedraw_moveKey · key true)
  | releaseKey key => exact same.call (clearRedraw_moveKey · key false)
  | tickTimers => exact same.call fun _ => rfl

/-- However its steps are split into ticks, a pacer goes the way of the machine that makes them one
by one. -/
lemma Matches.foldl_act {state : Machine × Option Fault} (same : p.Matches state)
    (whole : p.cpuHz = .whole rate) {acts : List HostAct} (countable : p.Countable acts) :
    (acts.foldl Pacer.act p).Matches ((acts.flatMap p.operations).foldl Machine.proceed state) := by
  induction acts generalizing p state with
  | nil => exact same
  | cons a acts ih =>
    have sameRate := cpuHz_act p a
    have sameOperations : (p.act a).operations = p.operations := by
      funext b
      cases b with
      | tick elapsed => rw [operations, operations, stepsFor_of_cpuHz_eq sameRate]
      | _ => rfl
    have first : p.Countable [a] := by
      intro elapsed member
      exact countable elapsed (List.mem_cons.2 (.inl (List.mem_singleton.1 member)))
    have others : (p.act a).Countable acts := by
      intro elapsed member
      rw [sameRate]
      exact countable elapsed (.tail _ member)
    have rest := ih (same.act whole first) (sameRate.trans whole) others
    rw [sameOperations] at rest
    rw [List.foldl_cons, List.flatMap_cons, List.foldl_append]
    exact rest

/-- A tick that is counted runs its steps to the end and answers the request for a redraw, or stops
at the first step that fails. -/
lemma tick_of_counted {n : Nat} (running : p.halted = false)
    (counted : p.stepsFor elapsed = .ok (.whole n)) :
    p.machine.Completes n ∧
      p.tick elapsed = ({ p with machine := (p.machine.after n).clearRedraw },
        if (p.machine.after n).redraw then
          ((Picture.render (p.machine.after n).screen.grid p.scale).map Tick.frame).mapError
            .picture
        else .ok .unchanged) ∨
    ∃ k < n, ∃ f log, p.machine.Completes k ∧ (p.machine.after k).step.2 = some f ∧
      p.tick elapsed =
        ({ p with machine := { p.machine.after k with log := log } }.stop f, .ok (.failed f)) := by
  have rule := p.ticksTo_tick elapsed
  generalize p.tick elapsed = result at rule ⊢
  cases rule with
  | halted stopped =>
    rw [running] at stopped
    cases stopped
  | uncounted _ uncounted => exact absurd counted (uncounted n)
  | failed _ same before done fails =>
    cases counted.symm.trans same
    exact .inr ⟨_, before, _, _, done, fails, rfl⟩
  | unchanged _ same done quiet =>
    cases counted.symm.trans same
    rw [Int.toNat_natCast] at quiet done ⊢
    rw [Machine.clearRedraw_of_quiet quiet, quiet]
    exact .inl ⟨done, rfl⟩
  | shown _ same done asked =>
    cases counted.symm.trans same
    rw [Int.toNat_natCast] at asked done ⊢
    rw [asked]
    exact .inl ⟨done, rfl⟩

/-- A pacer that has halted stays so with its fault, whatever the host does. -/
lemma halted_foldl_act (stopped : p.halted = true) (acts : List HostAct) :
    (acts.foldl act p).halted = true ∧ (acts.foldl act p).fault = p.fault := by
  induction acts generalizing p with
  | nil => exact ⟨stopped, rfl⟩
  | cons a acts ih =>
    have kept : (p.act a).halted = true ∧ (p.act a).fault = p.fault := by
      cases a with
      | tick elapsed =>
        rw [act, tick_of_halted stopped]
        exact ⟨stopped, rfl⟩
      | _ => exact ⟨stopped, rfl⟩
    obtain ⟨stays, same⟩ := ih kept.1
    exact ⟨stays, same.trans kept.2⟩

/-- Batching does not matter. At a whole number of steps a second, a tick with a finite product of
time and rate runs its steps, at least one, and answers a redraw that is asked for at the end with a
picture; or it runs those before the first that fails, tells the fault and no picture, and leaves
the request for a redraw alone. Ticks and calls in any order leave the machine, but for the request,
and the fault as the steps made one by one do; so they depend on the steps between calls and not on
the ticks that these are split into. After a fault no tick does anything. -/
theorem batching_invisible (p : Pacer) {rate : Int} (whole : p.cpuHz = .whole rate) :
    (p.halted = false → ∀ elapsed, elapsed.timesFinite p.cpuHz = true →
      ∃ n : Nat, 1 ≤ n ∧ p.stepsFor elapsed = .ok (.whole n) ∧
        (p.machine.Completes n ∧
          p.tick elapsed = ({ p with machine := (p.machine.after n).clearRedraw },
            if (p.machine.after n).redraw then
              ((Picture.render (p.machine.after n).screen.grid p.scale).map Tick.frame).mapError
                .picture
            else .ok .unchanged) ∨
        ∃ k < n, ∃ f log, p.machine.Completes k ∧ (p.machine.after k).step.2 = some f ∧
          p.tick elapsed =
            ({ p with
                machine := { p.machine.after k with log := log }
                halted := true
                fault := some f
                halted_eq := rfl }, .ok (.failed f)))) ∧
    (p.halted = false → ∀ acts, p.Countable acts →
      (acts.foldl act p).Matches
        ((acts.flatMap p.operations).foldl Machine.proceed (p.machine, none)) ∧
      ∀ acts', p.Countable acts' → acts'.flatMap p.operations = acts.flatMap p.operations →
        (acts'.foldl act p).machine.clearRedraw = (acts.foldl act p).machine.clearRedraw ∧
        (acts'.foldl act p).fault = (acts.foldl act p).fault) ∧
    (p.halted = true → ∀ acts : List HostAct,
      let q := acts.foldl act p
      q.halted = true ∧ q.fault = p.fault ∧
        ∀ elapsed, ∃ answer, q.tick elapsed = (q, .ok answer) ∧ answer.picture? = none ∧
        answer.report = "") := by
  refine ⟨?_, ?_, ?_⟩
  · intro running elapsed finite
    obtain ⟨n, pos, counted⟩ := exists_stepsFor whole finite
    exact ⟨n, pos, counted, tick_of_counted running counted⟩
  · intro running acts countable
    have start : p.Matches (p.machine, none) := ⟨rfl, fault_of_running running⟩
    have matched := start.foldl_act whole countable
    refine ⟨matched, ?_⟩
    intro acts' countable' same
    have matched' := start.foldl_act whole countable'
    rw [same] at matched'
    exact ⟨matched'.machine.trans matched.machine.symm, matched'.fault.trans matched.fault.symm⟩
  · intro stopped acts q
    obtain ⟨stays, kept⟩ := halted_foldl_act stopped acts
    refine ⟨stays, kept, ?_⟩
    intro elapsed
    exact ⟨.halted, tick_of_halted stays elapsed, rfl, rfl⟩

/-- A machine that draws and then returns without a caller, at a hundred steps a second. A tick of
three steps tells the fault of the third, although a redraw was asked for; a tick of two steps and
another of one come to the same. -/
theorem return_ends_tick :
    let m := ((Machine.fresh ⟨.bit, false, true⟩ false (.cycle 0 [])).performAll
      [.load (.bytes [0xA0, 0x00, 0xD0, 0x15, 0x00, 0xEE])]).1
    let p : Pacer := ⟨m, .whole 100, rfl, 1, false, none, rfl⟩
    let hundredths (n : Nat) : Quantity := .real (.nearest false (n / 100))
    (m.after 2).redraw = true ∧
    (∃ f log, p.tick (hundredths 3) =
      ({ p with
          machine := { m.after 2 with log := log }
          halted := true
          fault := some f
          halted_eq := rfl }, .ok (.failed f))) ∧
    ([HostAct.tick (hundredths 2), .tick (hundredths 1)].foldl act p).machine.clearRedraw =
      (p.act (.tick (hundredths 3))).machine.clearRedraw := by
  intro m p hundredths
  have asked : (m.after 2).redraw = true := by decide +kernel
  have finite (n : Nat) (small : n < 4) : (hundredths n).timesFinite p.cpuHz = true := by
    revert n
    decide +kernel
  have counted (n : Nat) (small : n < 4) (pos : 0 < n) : p.stepsFor (hundredths n) =
      .ok (.whole n) := by
    revert n
    decide +kernel
  have firstTwo (j : Nat) (early : j < 2) : (m.after j).step.2 = none := by
    refine Option.isNone_iff_eq_none.1 ?_
    revert j
    decide +kernel
  have third : (m.after 2).step.2 ≠ none := Option.isSome_iff_ne_none.1 (by decide +kernel)
  obtain ⟨ticks, sequences, _⟩ := batching_invisible p (show p.cpuHz = .whole 100 from rfl)
  refine ⟨asked, ?_, ?_⟩
  · obtain ⟨n, _, same, outcome⟩ := ticks rfl (hundredths 3) (finite 3 (by decide))
    obtain rfl : 3 = n :=
      Int.ofNat.inj
        (Quantity.whole.inj (Except.ok.inj ((counted 3 (by decide) (by decide)).symm.trans same)))
    rcases outcome with ⟨done, _⟩ | ⟨k, before, f, log, _, fails, result⟩
    · exact absurd (done 2 (by decide)) third
    · obtain rfl : k = 2 := by
        by_contra other
        have none := firstTwo k (by omega)
        rw [none] at fails
        cases fails
      exact ⟨f, log, result⟩
  · have steps (n : Nat) (small : n < 4) (pos : 0 < n) :
        p.operations (.tick (hundredths n)) = List.replicate n .step := by
      rw [operations, counted n small pos]
      rfl
    have once : p.Countable [.tick (hundredths 3)] := by
      intro elapsed member
      obtain rfl := HostAct.tick.inj (List.mem_singleton.1 member)
      exact finite 3 (by decide)
    have twice : p.Countable [.tick (hundredths 2), .tick (hundredths 1)] := by
      intro elapsed member
      simp only [List.mem_cons, HostAct.tick.injEq, List.not_mem_nil, or_false] at member
      rcases member with rfl | rfl
      · exact finite 2 (by decide)
      · exact finite 1 (by decide)
    obtain ⟨_, splits⟩ := sequences rfl _ once
    refine (splits _ twice ?_).1
    simp only [List.flatMap_cons, List.flatMap_nil, List.append_nil,
      steps 1 (by decide) (by decide), steps 2 (by decide) (by decide),
      steps 3 (by decide) (by decide)]
    rfl

end Pacer

end Chip8
