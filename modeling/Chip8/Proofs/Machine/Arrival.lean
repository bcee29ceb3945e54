import Chip8.Proofs.Machine.Keys

/-!
# Events that a step does not look at

A key that moves and a tick of the timers change the keys or the timers of a machine and nothing
else; both are a `Nudge`. An instruction that looks at nothing that a nudge changes leaves the nudge
there (`nextRest_nudge`), so it makes no difference whether the event or the step comes first
(`step_nudge`). Over a run of such steps an event may arrive at any moment, as it can always be put
off to the end (`performAll_interleaved`).
-/

namespace Chip8

/-- A change from outside, to the keys of a machine and to both timers alike. -/
structure Nudge where
  keys : Vector Bool Layout.keyCount → Vector Bool Layout.keyCount
  timer : Byte → Byte
  /-- A timer may count down before it is changed or afterwards. -/
  countdown : ∀ b : Byte, timer (if b = 0 then 0 else b - 1) =
    if timer b = 0 then 0 else timer b - 1

namespace Nudge

/-- The number of a key is that of a cell. -/
lemma toNat_lt_keyCount (k : Nibble) : k.toNat < Layout.keyCount := k.isLt

/-- A key goes down or up. -/
def key (k : Nibble) (down : Bool) : Nudge where
  keys keys := keys.set k.toNat down (toNat_lt_keyCount k)
  timer b := b
  countdown _ := rfl

/-- Both timers count down. -/
def tick : Nudge where
  keys keys := keys
  timer b := if b = 0 then 0 else b - 1
  countdown _ := rfl

end Nudge

/-- The rest of a machine after a change from outside. -/
def Rest.nudge (r : Rest) (d : Nudge) : Rest :=
  { r with
    keys := d.keys r.keys, delayTimer := d.timer r.delayTimer, soundTimer := d.timer r.soundTimer }

/-- The instructions that read a timer or set one. -/
def Instruction.looksAtTimers (i : Instruction) : Prop :=
  i.op = .readDelay ∨ i.op = .setDelay ∨ i.op = .setSound

/-- The kind of an instruction decides whether it looks at a timer. -/
instance (i : Instruction) : Decidable i.looksAtTimers := inferInstanceAs (Decidable (_ ∨ _ ∨ _))

namespace Machine

variable {m : Machine} {i : Instruction} {d : Nudge} {event : Operation}

/-- The instructions that look at a key: any key may be the one that is waited for, and one key is
asked for. -/
def looksAtKey (m : Machine) (i : Instruction) (k : Nibble) : Prop :=
  i.op = .waitKey ∨ (i.op = .skipKey ∨ i.op = .skipNoKey) ∧ (m.v i.x).extractLsb' 0 4 = k

/-- The kind of an instruction and a register decide whether it looks at a key. -/
instance (m : Machine) (i : Instruction) (k : Nibble) : Decidable (m.looksAtKey i k) :=
  inferInstanceAs (Decidable (_ ∨ (_ ∨ _) ∧ _))

/-- The machine after a change from outside. -/
def nudge (m : Machine) (d : Nudge) : Machine := m.withRest (m.rest.nudge d)

/-- What an instruction looks at is not what changes. -/
structure Spares (m : Machine) (i : Instruction) (d : Nudge) : Prop where
  timers : i.looksAtTimers → ∀ b, d.timer b = b
  waits : i.op = .waitKey → ∀ keys, d.keys keys = keys
  sees : i.op = .skipKey ∨ i.op = .skipNoKey →
    (m.nudge d).isDown ((m.v i.x).extractLsb' 0 4) = m.isDown ((m.v i.x).extractLsb' 0 4)
  releases : i.op = .skipNoKey →
    ((m.nudge d).setDown ((m.v i.x).extractLsb' 0 4) false).keys =
      d.keys (m.setDown ((m.v i.x).extractLsb' 0 4) false).keys

/-- A key that an instruction does not look at moves unseen. -/
lemma spares_key {k : Nibble} (unseen : ¬ m.looksAtKey i k) (down : Bool) :
    m.Spares i (.key k down) where
  timers _ _ := rfl
  waits waits := absurd (.inl waits) unseen
  sees := by
    intro asks
    exact (isDown_setDown down).trans (if_neg fun same => unseen (.inr ⟨asks, same⟩))
  releases := by
    intro asks
    have other : k.toNat ≠ ((m.v i.x).extractLsb' 0 4).toNat := by
      intro same
      exact unseen (.inr ⟨.inr asks, (BitVec.eq_of_toNat_eq same).symm⟩)
    exact @Vector.set_comm _ _ k.toNat _ down false m.keys k.isLt (BitVec.isLt _) other

/-- The timers tick unseen by an instruction that does not look at them. -/
lemma spares_tick (unseen : ¬ i.looksAtTimers) : m.Spares i .tick where
  timers looks := absurd looks unseen
  waits _ _ := rfl
  sees _ := rfl
  releases _ := rfl

/-! ## Steps -/

/-- An instruction that spares a nudge finds nothing else than without it. -/
lemma Spares.misses (spares : m.Spares i d) : m.Misses i (m.rest.nudge d) where
  place := rfl
  shiftFlag := rfl
  delayTimer reads := spares.timers (.inl reads) m.delayTimer
  asked := spares.sees
  awaited waits := spares.waits waits m.keys

/-- It consumes the same key, if it consumes one. -/
lemma nextKeys_nudge (spares : m.Spares i d) : (m.nudge d).nextKeys i = d.keys (m.nextKeys i) := by
  obtain ⟨op, opcode⟩ := i
  cases op with
  | skipNoKey => exact spares.releases rfl
  | waitKey =>
    have still := spares.waits rfl
    have same : (m.nudge d).lowestDown? = m.lowestDown? := lowestDown?_withRest (still m.keys)
    rw [nextKeys, nextKeys, still, same]
    cases m.lowestDown? with
    | none => exact still m.keys
    | some k =>
      exact congrArg (fun keys : Vector Bool _ => keys.set k.toNat false k.isLt) (still m.keys)
  | _ => rfl

/-- The end of a step may count a timer down before it is nudged or afterwards. -/
lemma countDown_nudge (m : Machine) (d : Nudge) (b : Byte) :
    (m.nudge d).countDown (d.timer b) = d.timer (m.countDown b) := by
  have same : (m.nudge d).options = m.options := rfl
  rw [countDown, countDown, same]
  cases m.options.timersPerStep with
  | false => rfl
  | true => exact (d.countdown b).symm

/-- A timer that is set is not one that is nudged. -/
lemma timer_nudge {c : Prop} [Decidable c] (looks : c → i.looksAtTimers) (spares : m.Spares i d)
    (b b' : Byte) :
    (if c then b else d.timer b') = d.timer (if c then b else b') := by
  split
  · next sets => exact (spares.timers (looks sets) b).symm
  · rfl

/-- What a step leaves is nudged in the same way. -/
lemma nextRest_nudge (spares : ∀ i, m.fetch = .ok i → m.Spares i d) :
    (m.nudge d).nextRest = m.nextRest.nudge d := by
  refine nextRest_related m (m.nudge d) (P := fun r r' => r' = r.nudge d)
    rfl (fun _ _ => rfl) rfl (fun _ => rfl) ?_
  intro i fetched
  have spared := spares i fetched
  have keys := nextKeys_nudge spared
  have delay :
      (m.nudge d).countDown (if i.op = .setDelay then m.v i.x else d.timer m.delayTimer) =
      d.timer (m.countDown (if i.op = .setDelay then m.v i.x else m.delayTimer)) := by
    rw [timer_nudge (fun sets => .inr (.inl sets)) spared, countDown_nudge]
  have sound :
      (m.nudge d).countDown (if i.op = .setSound then m.v i.x else d.timer m.soundTimer) =
      d.timer (m.countDown (if i.op = .setSound then m.v i.x else m.soundTimer)) := by
    rw [timer_nudge (fun sets => .inr (.inr sets)) spared, countDown_nudge]
  rw [restAfter, restAfter, keys]
  simp only [Rest.nudge, ← delay, ← sound]
  rfl

/-- A step that spares a nudge is the same step before it and afterwards. -/
theorem step_nudge (spares : ∀ i, m.fetch = .ok i → m.Spares i d) :
    (m.nudge d).step = (m.step.1.nudge d, m.step.2) := by
  have same : (m.nudge d).step = (m.step.1.withRest (m.nudge d).nextRest, m.step.2) :=
    step_withRest rfl (fun _ _ => rfl) fun i fetched => (spares i fetched).misses
  rw [same, nextRest_nudge spares, ← rest_step]
  rfl

/-! ## Events -/

/-- Events of a host that the next step of a machine does not look at. A step that fetches nothing
looks at no event. -/
inductive Overlooks (m : Machine) : Operation → Prop where
  | pressKey {v k} :
    key? v = some k →
    (∀ i, m.fetch = .ok i → ¬ m.looksAtKey i k) →
    m.Overlooks (.pressKey v)
  | releaseKey {v k} :
    key? v = some k →
    (∀ i, m.fetch = .ok i → ¬ m.looksAtKey i k) →
    m.Overlooks (.releaseKey v)
  | tickTimers :
    (∀ i, m.fetch = .ok i → ¬ i.looksAtTimers) →
    m.Overlooks .tickTimers

/-- An event that a step does not look at is a nudge that its instruction spares. -/
lemma Overlooks.exists_nudge (overlooks : m.Overlooks event) :
    ∃ d, (∀ m' : Machine, m'.perform event = (m'.nudge d, .done)) ∧ ∀ i, m.fetch = .ok i →
    m.Spares i d := by
  cases overlooks with
  | @pressKey v k number unseen =>
    refine ⟨.key k true, ?_, fun i fetched => spares_key (unseen i fetched) true⟩
    intro m'
    exact moveKey_of_key? number true
  | @releaseKey v k number unseen =>
    refine ⟨.key k false, ?_, fun i fetched => spares_key (unseen i fetched) false⟩
    intro m'
    exact moveKey_of_key? number false
  | tickTimers unseen =>
    exact ⟨.tick, fun _ => rfl, fun i fetched => spares_tick (unseen i fetched)⟩

/-- A nudge does not change which events a step looks at. -/
lemma Overlooks.nudge (overlooks : m.Overlooks event) (d : Nudge) :
    (m.nudge d).Overlooks event := by
  cases overlooks with
  | pressKey number unseen => exact .pressKey number unseen
  | releaseKey number unseen => exact .releaseKey number unseen
  | tickTimers unseen => exact .tickTimers unseen

/-- An event may come before a step that does not look at it or after the step. -/
lemma perform_step_of_overlooks (overlooks : m.Overlooks event) :
    (m.perform event).1.perform .step =
      (((m.perform .step).1.perform event).1, (m.perform .step).2) := by
  obtain ⟨d, nudges, spares⟩ := overlooks.exists_nudge
  rw [nudges, nudges, perform_step, perform_step, step_nudge spares]

/-! ## Runs -/

/-- Operations that are so many steps, with events that arrive among them in their order. -/
inductive Interleaves : Nat → List Operation → List Operation → Prop where
  | nil : Interleaves 0 [] []
  | step {count events operations} :
    Interleaves count events operations →
    Interleaves (count + 1) events (.step :: operations)
  | event {count event events operations} :
    Interleaves count events operations →
    Interleaves count (event :: events) (event :: operations)

variable {count : Nat} {events operations : List Operation}

/-- An event that no step of a run looks at may come before the run or after it. -/
lemma performAll_steps_of_overlooks
    (unseen : ∀ moment ∈ m.moments (List.replicate count .step), moment.machine.Overlooks event) :
    (m.perform event).1.performAll (List.replicate count .step) =
      (((m.performAll (List.replicate count .step)).1.perform event).1,
        (m.performAll (List.replicate count .step)).2) := by
  induction count generalizing m with
  | zero => rfl
  | succ count ih =>
    have first := perform_step_of_overlooks (unseen _ (.head _))
    have rest := ih fun moment member => unseen moment (.tail _ member)
    simp only [List.replicate_succ, performAll, first, rest]

/-- The steps after an event that they do not look at look at no more than they did without it. -/
lemma overlooks_of_overlooks {event' : Operation}
    (unseen : ∀ moment ∈ m.moments (List.replicate count .step), moment.machine.Overlooks event)
    (unseen' : ∀ moment ∈ m.moments (List.replicate count .step), moment.machine.Overlooks event') :
    ∀ moment ∈ (m.perform event).1.moments (List.replicate count .step),
      moment.machine.Overlooks event' := by
  induction count generalizing m with
  | zero =>
    intro moment member
    cases member
  | succ count ih =>
    have overlooks := unseen _ (.head _)
    obtain ⟨d, nudges, _⟩ := overlooks.exists_nudge
    intro moment member
    cases member with
    | head =>
      rw [nudges]
      exact (unseen' _ (.head _)).nudge d
    | tail _ member =>
      rw [perform_step_of_overlooks overlooks] at member
      exact ih (fun moment member => unseen moment (.tail _ member))
        (fun moment member => unseen' moment (.tail _ member)) moment member

/-- Events that no step of a run looks at may all wait until the run is over. -/
lemma performAll_interleaved (interleaves : Interleaves count events operations)
    (unseen : ∀ moment ∈ m.moments (List.replicate count .step), ∀ event ∈ events,
      moment.machine.Overlooks event) :
    (m.performAll operations).1 =
      ((m.performAll (List.replicate count .step)).1.performAll events).1 := by
  induction interleaves generalizing m with
  | nil => rfl
  | step _ ih => exact ih fun moment member => unseen moment (.tail _ member)
  | @event count event events operations _ ih =>
    -- The rest of the run starts from a machine that the event has changed, which keeps what its
    -- steps overlook.
    have first := fun moment member => unseen moment member event (.head _)
    have later : ∀ moment ∈ (m.perform event).1.moments (List.replicate count .step),
        ∀ event' ∈ events,
        moment.machine.Overlooks event' := by
      intro moment member event' arrives
      have unseen' := fun moment member => unseen moment member event' (.tail _ arrives)
      exact overlooks_of_overlooks first unseen' moment member
    have rest := ih later
    -- In the run that is put off, the event now comes before the steps; it has to come behind them.
    rw [performAll_steps_of_overlooks first] at rest
    exact rest

/-- A key that moves and a tick of the timers commute with a step that does not look at them. So at
whatever moments of a run they arrive, if no step of the run looks at them, the machine is the same
in the end. -/
theorem arrival_unseen :
    (∀ (m : Machine) (event : Operation), m.Overlooks event →
      (m.perform event).1.perform .step =
        (((m.perform .step).1.perform event).1, (m.perform .step).2)) ∧
    ∀ (m : Machine) (count : Nat) (events operations operations' : List Operation),
      Interleaves count events operations → Interleaves count events operations' →
      (∀ moment ∈ m.moments (List.replicate count .step), ∀ event ∈ events,
        moment.machine.Overlooks event) →
        (m.performAll operations).1 = (m.performAll operations').1 := by
  refine ⟨fun m event => perform_step_of_overlooks, ?_⟩
  intro m count events operations operations' interleaves interleaves' unseen
  exact (performAll_interleaved interleaves unseen).trans
    (performAll_interleaved interleaves' unseen).symm

/-- Key 5 goes down and the timers count down while a program asks for key 3 and adds, or when it is
done with both. -/
theorem other_key_unseen :
    let m : Machine := ((fresh ⟨.bit, false, true⟩ true (.cycle 0 [])).performAll
      [.load (.bytes [0x60, 0x03, 0xF0, 0x15, 0xE0, 0xA1, 0x00, 0x00, 0x70, 0x01]), .step, .step]).1
    (m.perform (.pressKey (.int 5))).1.perform .step =
      (((m.perform .step).1.perform (.pressKey (.int 5))).1, (m.perform .step).2) ∧
    (m.performAll [.pressKey (.int 5), .step, .tickTimers, .step]).1 =
      (m.performAll [.step, .step, .pressKey (.int 5), .tickTimers]).1 := by
  intro m
  let m' : Machine := (m.perform .step).1
  have overlooks {m : Machine} {word : Word} (wraps : m.options.strict = false)
      (here : m.opcode = word)
      (key : ¬ m.looksAtKey (.decode word) 5) (timers : ¬ (Instruction.decode word).looksAtTimers) :
      ∀ event ∈ [Operation.pressKey (.int 5), .tickTimers], m.Overlooks event := by
    have fetched := fetch_of_not_strict wraps here
    rw [List.forall_mem_cons, List.forall_mem_singleton]
    refine ⟨.pressKey (k := 5) rfl ?_, .tickTimers ?_⟩
    · intro i same
      cases fetched.symm.trans same
      exact key
    · intro i same
      cases fetched.symm.trans same
      exact timers
  obtain ⟨wraps, asks, key⟩ : m.options.strict = false ∧ m.opcode = 0xE0A1 ∧
      ¬ m.looksAtKey (.decode 0xE0A1) 5 := by
    decide +kernel
  obtain ⟨wraps', adds, key'⟩ :
      m'.options.strict = false ∧ m'.opcode = 0x7001 ∧ ¬ m'.looksAtKey (.decode 0x7001) 5 := by
    decide +kernel
  have first := overlooks wraps asks key (by decide)
  have second := overlooks wraps' adds key' (by decide)
  clear_value m
  refine ⟨arrival_unseen.1 m _ (first _ (.head _)), ?_⟩
  apply arrival_unseen.2 m 2 [.pressKey (.int 5), .tickTimers]
  · exact .event (.step (.event (.step .nil)))
  · exact .step (.step (.event (.event .nil)))
  · intro moment member
    cases member with
    | head => exact first
    | tail _ member =>
      cases member with
      | head => exact second
      | tail _ member => cases member

end Machine

end Chip8
