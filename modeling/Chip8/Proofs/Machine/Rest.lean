import Chip8.Machine.Operation
import Chip8.Proofs.Machine.Step

/-!
# What an instruction does not look at

Every instruction may look at memory, the registers, the program counter, the stack, the screen and
the random source. The rest of a machine matters to few instructions or to none: the timers and the
keys to those that ask for them, of the index register only the place in memory, of the options only
the shift flag, and nothing of what is kept for the host. `Misses` says that an instruction finds in
another rest what it would have found. Then it does the same, and what it does to the rest is all
that tells the two machines apart (`effect_withRest`); so does the step (`step_withRest`). Changes
that a step does not see are all read off from this. Here that is the request for a redraw
(`step_of_clearRedraw_eq`), in other modules the log, the mode of addresses, what the host changes
between two steps and the high bits of the index register.
-/

namespace Chip8

/-- The parts of a machine that matter to few instructions or to none. -/
structure Rest where
  index : Word
  delayTimer : Byte
  soundTimer : Byte
  keys : Vector Bool Layout.keyCount
  redraw : Bool
  cycles : Nat
  unknownOpcodes : Nat
  options : Options
  logging : Bool
  log : List LogEntry

namespace Machine

variable {m m' : Machine} {r : Rest} {i : Instruction}

/-- The rest of a machine. -/
def rest (m : Machine) : Rest :=
  ⟨m.index, m.delayTimer, m.soundTimer, m.keys, m.redraw, m.cycles, m.unknownOpcodes,
    m.options, m.logging,
    m.log⟩

/-- The machine with another rest. -/
def withRest (m : Machine) (r : Rest) : Machine :=
  { m with
    index := r.index
    delayTimer := r.delayTimer
    soundTimer := r.soundTimer
    keys := r.keys
    redraw := r.redraw
    cycles := r.cycles
    unknownOpcodes := r.unknownOpcodes
    options := r.options
    logging := r.logging
    log := r.log }

/-- An instruction finds in another rest what it would have found in that of the machine. -/
structure Misses (m : Machine) (i : Instruction) (r : Rest) : Prop where
  place : r.index.toNat % 4096 = m.index.toNat % 4096
  shiftFlag : r.options.shiftFlag = m.options.shiftFlag
  delayTimer : i.op = .readDelay → r.delayTimer = m.delayTimer
  asked : i.op = .skipKey ∨ i.op = .skipNoKey →
    (m.withRest r).isDown ((m.v i.x).extractLsb' 0 4) = m.isDown ((m.v i.x).extractLsb' 0 4)
  awaited : i.op = .waitKey → r.keys = m.keys

/-- No instruction looks at the log. -/
lemma misses_log (m : Machine) (i : Instruction) (log : List LogEntry) :
    m.Misses i { m.rest with log := log } :=
  ⟨rfl, rfl, fun _ => rfl, fun _ => rfl, fun _ => rfl⟩

/-! ## Memory and registers -/

/-- Numbers with the same twelve low bits stand for the same place. -/
lemma ofNat_eq_of_mod {a b : Nat} (same : a % 4096 = b % 4096) :
    BitVec.ofNat 12 a = BitVec.ofNat 12 b := by
  apply BitVec.eq_of_toNat_eq
  rw [BitVec.toNat_ofNat, BitVec.toNat_ofNat]
  exact same

/-- What is written goes to the same places. -/
lemma memory_writeFrom {start start' : Nat} (bytes : List Byte) (memory : m'.memory = m.memory)
    (place : start' % 4096 = start % 4096) :
    (m'.writeFrom start' bytes).memory = (m.writeFrom start bytes).memory := by
  induction bytes generalizing m m' start start' with
  | nil => exact memory
  | cons b bytes ih =>
    apply ih
    · rw [ofNat_eq_of_mod place, setByte, setByte, memory]
    · omega

/-- What is read comes from the same places. -/
lemma readSpan_withRest (place : r.index.toNat % 4096 = m.index.toNat % 4096) (count : Nat) :
    (m.withRest r).readSpan count = m.readSpan count := by
  apply List.map_congr_left
  intro j _
  have offset : (r.index.toNat + j) % 4096 = (m.index.toNat + j) % 4096 := by omega
  exact congrArg m.byteAt (ofNat_eq_of_mod offset)

/-- Registers are filled alike. -/
lemma registers_setRegisters (first : Nat) (bytes : List Byte)
    (registers : m'.registers = m.registers) :
    (m'.setRegisters first bytes).registers = (m.setRegisters first bytes).registers := by
  induction bytes generalizing m m' first with
  | nil => exact registers
  | cons b bytes ih =>
    apply ih
    rw [setV, setV, registers]

/-! ## Instructions -/

/-- An instruction that misses the rest stores the same. -/
lemma nextMemory_withRest (misses : m.Misses i r) :
    (m.withRest r).nextMemory i = m.nextMemory i := by
  obtain ⟨op, opcode⟩ := i
  cases op with
  | storeDecimal | store => exact memory_writeFrom _ rfl misses.place
  | _ => rfl

/-- It draws the same. -/
lemma drawSprite_withRest (place : r.index.toNat % 4096 = m.index.toNat % 4096) (x y : Byte)
    (height : Nat) :
    (m.withRest r).drawSprite x y height =
      (m.drawSprite x y height).withRest { r with redraw := true } := by
  rw [drawSprite, drawSprite, readSpan_withRest place]
  rfl

/-- It waits for the same key. -/
lemma lowestDown?_withRest (keys : r.keys = m.keys) : (m.withRest r).lowestDown? = m.lowestDown? :=
  congrArg (fun keys => lowestDown? { m with keys := keys }) keys

/-- It puts the same into the registers. -/
lemma nextRegisters_withRest (misses : m.Misses i r) :
    (m.withRest r).nextRegisters i = m.nextRegisters i := by
  obtain ⟨op, opcode⟩ := i
  cases op with
  | shr =>
    exact congrArg (fun f => (m.setFlagged _ (.shiftRight f (m.v _))).registers) misses.shiftFlag
  | shl =>
    exact congrArg (fun f => (m.setFlagged _ (.shiftLeft f (m.v _))).registers) misses.shiftFlag
  | draw =>
    rw [nextRegisters, drawSprite_withRest misses.place]
    rfl
  | readDelay => exact congrArg (fun b => (m.setV _ b).registers) (misses.delayTimer rfl)
  | waitKey =>
    rw [nextRegisters, nextRegisters]
    simp only [lowestDown?_withRest (misses.awaited rfl)]
    rfl
  | load =>
    show ((m.withRest r).setRegisters 0 ((m.withRest r).readSpan _)).registers = _
    rw [readSpan_withRest misses.place]
    exact registers_setRegisters 0 _ rfl
  | _ => rfl

/-- It goes on at the same place. -/
lemma successor_withRest (misses : m.Misses i r) : (m.withRest r).successor i = m.successor i := by
  obtain ⟨op, opcode⟩ := i
  cases op with
  | skipKey =>
    exact congrArg (fun down : Bool => (m.pc + if down then 4 else 2).wrap)
      (misses.asked (.inl rfl))
  | skipNoKey =>
    exact congrArg (fun down => (m.pc + if !down then 4 else 2).wrap) (misses.asked (.inr rfl))
  | waitKey =>
    exact congrArg (fun key? : Option Nibble => if key?.isSome then (m.pc + 2).wrap else m.pc)
      (lowestDown?_withRest (misses.awaited rfl))
  | _ => rfl

/-- It leaves the same on the screen. -/
lemma nextScreen_withRest (misses : m.Misses i r) :
    (m.withRest r).nextScreen i = m.nextScreen i := by
  obtain ⟨op, opcode⟩ := i
  cases op with
  | draw =>
    rw [nextScreen, drawSprite_withRest misses.place]
    rfl
  | _ => rfl

/-- An instruction that misses another rest does the same to the machine apart from its rest. -/
lemma effect_withRest (misses : m.Misses i r) :
    (m.withRest r).effect i = (m.effect i).withRest ((m.withRest r).effect i).rest := by
  rw [effect_eq, effect_eq m, nextMemory_withRest misses, nextRegisters_withRest misses,
    successor_withRest misses, nextScreen_withRest misses]
  rfl

/-! ## Steps -/

/-- The rest of a machine after an instruction that it has fetched and executes. -/
def restAfter (m : Machine) (i : Instruction) : Rest where
  index := m.nextIndex i
  delayTimer := m.countDown (if i.op = .setDelay then m.v i.x else m.delayTimer)
  soundTimer := m.countDown (if i.op = .setSound then m.v i.x else m.soundTimer)
  keys := m.nextKeys i
  redraw := if i.op = .cls ∨ i.op = .draw then true else m.redraw
  cycles := m.cycles + 1
  unknownOpcodes := if i.op = .unknown then m.unknownOpcodes + 1 else m.unknownOpcodes
  options := m.options
  logging := m.logging
  log := nextLog { m with log := m.logged (.trace m.pc i) } i

/-- The rest of a machine after a step. -/
def nextRest (m : Machine) : Rest :=
  match m.fetch with
  | .error _ => m.rest
  | .ok i =>
    match m.fault? i with
    | some _ => { m.rest with log := m.logged (.trace m.pc i) }
    | none => m.restAfter i

/-- A step that fetches nothing leaves everything. -/
lemma nextRest_of_noFetch {f : Fault} (noFetch : m.fetch = .error f) : m.nextRest = m.rest := by
  rw [nextRest, noFetch]

/-- A step whose instruction is refused has logged it. -/
lemma nextRest_of_refused {f : Fault} (fetched : m.fetch = .ok i) (refused : m.fault? i = some f) :
    m.nextRest = { m.rest with log := m.logged (.trace m.pc i) } := by
  simp only [nextRest, fetched, refused]

/-- A step that is done leaves what its instruction leaves. -/
lemma nextRest_of_accepted (fetched : m.fetch = .ok i) (accepted : m.fault? i = none) :
    m.nextRest = m.restAfter i := by
  simp only [nextRest, fetched, accepted]

/-- What two steps leave that fetch the same and refuse the same: it is related if it is so whether
nothing is fetched, or an instruction is logged alone, or it is executed. -/
lemma nextRest_related (m m' : Machine) {P : Rest → Rest → Prop} (fetches : m'.fetch = m.fetch)
    (refuses : ∀ i, m.fetch = .ok i → m'.fault? i = m.fault? i) (before : P m.rest m'.rest)
    (traced : ∀ i, P { m.rest with log := m.logged (.trace m.pc i) }
      { m'.rest with log := m'.logged (.trace m'.pc i) })
    (executed : ∀ i, m.fetch = .ok i → P (m.restAfter i) (m'.restAfter i)) :
    P m.nextRest m'.nextRest := by
  cases fetched : m.fetch with
  | error f =>
    rw [nextRest_of_noFetch fetched, nextRest_of_noFetch (fetches.trans fetched)]
    exact before
  | ok i =>
    have sameFault := refuses i fetched
    cases refused : m.fault? i with
    | some f =>
      rw [nextRest_of_refused fetched refused,
        nextRest_of_refused (fetches.trans fetched) (sameFault.trans refused)]
      exact traced i
    | none =>
      rw [nextRest_of_accepted fetched refused,
        nextRest_of_accepted (fetches.trans fetched) (sameFault.trans refused)]
      exact executed i fetched

/-- The rest after a step, whatever it comes to. -/
lemma rest_step (m : Machine) : m.step.1.rest = m.nextRest := by
  have rule := m.stepsTo_step
  generalize m.step = result at rule ⊢
  cases rule with
  | noFetch noFetch => exact (nextRest_of_noFetch noFetch).symm
  | refused fetched refused =>
    rw [nextRest_of_refused fetched refused, note_eq]
    rfl
  | done fetched accepted =>
    rw [nextRest_of_accepted fetched accepted, finishStep_eq, effect_eq, note_eq]
    rfl

/-- A step that fetches the same, refuses the same and executes what misses another rest is the same
step apart from the rest. -/
lemma step_withRest (fetches : (m.withRest r).fetch = m.fetch)
    (refuses : ∀ i, m.fetch = .ok i → (m.withRest r).fault? i = m.fault? i)
    (misses : ∀ i, m.fetch = .ok i → m.Misses i r) :
    (m.withRest r).step = (m.step.1.withRest (m.withRest r).nextRest, m.step.2) := by
  rw [← rest_step]
  cases fetched : m.fetch with
  | error f =>
    rw [step, step, fetches, fetched]
    rfl
  | ok i =>
    rw [step_of_fetch fetched, step_of_fetch (fetches.trans fetched), refuses i fetched]
    cases m.fault? i with
    | some f =>
      rw [note_eq, note_eq m]
      rfl
    | none =>
      -- The instruction is logged to another rest, which it misses like the one before.
      obtain ⟨place, shiftFlag, delayTimer, asked, awaited⟩ := misses i fetched
      have unseen : { m with log := m.logged (.trace m.pc i) }.Misses i
          { r with log := (m.withRest r).logged (.trace m.pc i) } :=
        ⟨place, shiftFlag, delayTimer, asked, awaited⟩
      have noted : (m.withRest r).note (.trace (m.withRest r).pc i) =
          { m with log := m.logged (.trace m.pc i) }.withRest
            { r with log := (m.withRest r).logged (.trace m.pc i) } := note_eq _ _
      rw [noted, note_eq m, effect_withRest unseen]
      show ((withRest _ _).finishStep, none) =
        ((finishStep _).withRest ((withRest _ _).finishStep.rest), none)
      rw [finishStep_eq, finishStep_eq]
      rfl

/-! ## The request for a redraw -/

/-- Where no redraw is asked for, there is no request to take back. -/
lemma clearRedraw_of_quiet (quiet : m.redraw = false) : m.clearRedraw = m := by
  rw [clearRedraw, ← quiet]

/-- Apart from the request itself, what a step leaves does not depend on a request for a redraw. -/
lemma nextRest_clearRedraw (m : Machine) :
    { m.clearRedraw.nextRest with redraw := false } = { m.nextRest with redraw := false } :=
  nextRest_related m m.clearRedraw
    (P := fun r r' => { r' with redraw := false } = { r with redraw := false })
    rfl (fun _ _ => rfl) rfl (fun _ => rfl) fun _ _ => rfl

/-- Apart from the request itself, a step does not depend on a request for a redraw. -/
lemma step_clearRedraw (m : Machine) :
    m.clearRedraw.step.1.clearRedraw = m.step.1.clearRedraw ∧ m.clearRedraw.step.2 = m.step.2 := by
  have quiet : m.clearRedraw.step = (m.step.1.withRest m.clearRedraw.nextRest, m.step.2) :=
    step_withRest (r := { m.rest with redraw := false }) rfl (fun _ _ => rfl)
      fun _ _ => ⟨rfl, rfl, fun _ => rfl, fun _ => rfl, fun _ => rfl⟩
  rw [quiet]
  refine ⟨?_, rfl⟩
  calc (m.step.1.withRest m.clearRedraw.nextRest).clearRedraw
      = m.step.1.withRest { m.clearRedraw.nextRest with redraw := false } := rfl
    _ = m.step.1.withRest { m.step.1.rest with redraw := false } := by
        rw [nextRest_clearRedraw, rest_step]
    _ = m.step.1.clearRedraw := rfl

/-- Machines that differ in the request for a redraw alone still do after a step, and fail alike. -/
lemma step_of_clearRedraw_eq (same : m.clearRedraw = m'.clearRedraw) :
    m.step.1.clearRedraw = m'.step.1.clearRedraw ∧ m.step.2 = m'.step.2 := by
  obtain ⟨machine, fault⟩ := step_clearRedraw m
  obtain ⟨machine', fault'⟩ := step_clearRedraw m'
  rw [← machine, ← machine', ← fault, ← fault', same]
  exact ⟨rfl, rfl⟩

end Machine

end Chip8
