import Chip8.Proofs.Machine.Moment
import Chip8.Proofs.Pacer.Tick

/-!
# Keys

Host and program write the same key cells. `Consumes` lists how an instruction takes a key: it asks
for one that is down, or it waits and takes the lowest. A step releases the key that it consumes and
touches no other (`isDown_step`). `Moment.keyEvent?` says what happens to a key in a moment of a
run, and `isDown_perform` that nothing else decides whether it is down afterwards. Where no key is
down, an instruction that waits for one goes on waiting (`steps_of_waiting`).
-/

namespace Chip8

namespace Machine

variable {m : Machine} {i : Instruction} {j k : Nibble}

/-! ## Key cells -/

/-- A key that is moved is where it was moved to, and any other key stays. -/
lemma isDown_setDown (down : Bool) :
    (m.setDown k down).isDown j = if j = k then down else m.isDown j := by
  by_cases same : j = k
  · subst same
    rw [if_pos rfl]
    exact Vector.getElem_set_self j.isLt
  · have ne : k.toNat ≠ j.toNat := fun e => same (BitVec.eq_of_toNat_eq e.symm)
    rw [if_neg same]
    exact Vector.getElem_set_ne k.isLt j.isLt ne

/-- Of keys moved one after the other, every one is where it was moved to, and any other key
stays. -/
lemma isDown_setAllDown (keys : List Nibble) (down : Bool) :
    (m.setAllDown keys down).isDown k = if k ∈ keys then down else m.isDown k := by
  induction keys generalizing m with
  | nil => rfl
  | cons j keys ih =>
    have rest : (m.setAllDown (j :: keys) down).isDown k =
        ((m.setDown j down).setAllDown keys down).isDown k := rfl
    rw [rest, ih, isDown_setDown]
    by_cases later : k ∈ keys
    · rw [if_pos later, if_pos (List.mem_cons_of_mem _ later)]
    · simp only [List.mem_cons, later, or_false, if_false]

/-- On a new machine no key is down. -/
lemma isDown_fresh (options : Options) (logging : Bool) (random : Source Byte) :
    (fresh options logging random).isDown k = false := Vector.getElem_replicate k.isLt

/-- The lowest key that is down has no other below it. -/
lemma lowestDown?_eq_some_iff : m.lowestDown? = some k ↔
    m.isDown k = true ∧ ∀ j < k, m.isDown j = false := by
  rw [lowestDown?, allKeys, List.find?_map, Option.map_eq_some_iff]
  constructor
  · rintro ⟨n, found, rfl⟩
    obtain ⟨down, inside, lower⟩ := List.find?_range_eq_some.1 found
    refine ⟨down, ?_⟩
    intro j below
    have before : j.toNat < n := Nat.lt_of_lt_of_le below (Nat.mod_le _ _)
    have up := lower j.toNat before
    simp only [Function.comp_apply, BitVec.ofNat_toNat, BitVec.setWidth_eq, Bool.not_eq_true'] at up
    exact up
  · rintro ⟨down, lower⟩
    have number : BitVec.ofNat 4 k.toNat = k := by rw [BitVec.ofNat_toNat, BitVec.setWidth_eq]
    refine ⟨k.toNat, ?_, number⟩
    rw [List.find?_range_eq_some]
    refine ⟨?_, List.mem_range.2 k.isLt, ?_⟩
    · rw [Function.comp_apply, number]
      exact down
    · intro n before
      have below : BitVec.ofNat 4 n < k := by
        rw [BitVec.lt_def, BitVec.toNat_ofNat]
        exact Nat.lt_of_le_of_lt (Nat.mod_le _ _) before
      rw [Function.comp_apply, lower _ below]
      rfl

/-! ## Consumption -/

/-- The key that an instruction consumes. -/
inductive Consumes (m : Machine) (i : Instruction) : Nibble → Prop where
  /-- The key that is asked for, if it is down. -/
  | asked :
    i.op = .skipNoKey →
    m.isDown ((m.v i.x).extractLsb' 0 4) = true →
    m.Consumes i ((m.v i.x).extractLsb' 0 4)
  /-- The lowest key that is down, by an instruction that waits for one. -/
  | awaited {k : Nibble} :
    i.op = .waitKey →
    m.isDown k = true →
    (∀ j < k, m.isDown j = false) →
    m.Consumes i k

/-- The key that an instruction consumes, if it consumes one. -/
def consumed? (m : Machine) (i : Instruction) : Option Nibble :=
  match i.op with
  | .skipNoKey =>
    let k := (m.v i.x).extractLsb' 0 4
    if m.isDown k then some k else none
  | .waitKey => m.lowestDown?
  | _ => none

/-- The key that an instruction consumes is found by the rules. -/
lemma consumed?_eq_some_iff : m.consumed? i = some k ↔ m.Consumes i k := by
  constructor
  · intro consumed
    rw [consumed?] at consumed
    split at consumed
    · next asks =>
      obtain ⟨down, same⟩ := Option.ite_none_right_eq_some.1 consumed
      exact Option.some.inj same ▸ .asked asks down
    · next waits =>
      obtain ⟨down, lower⟩ := lowestDown?_eq_some_iff.1 consumed
      exact .awaited waits down lower
    · cases consumed
  · intro rule
    cases rule with
    | asked asks down =>
      simp only [consumed?, asks]
      exact if_pos down
    | awaited waits down lower =>
      simp only [consumed?, waits]
      exact lowestDown?_eq_some_iff.2 ⟨down, lower⟩

/-- An instruction releases the key that it consumes. -/
lemma isDown_effect (m : Machine) (i : Instruction) (j : Nibble) :
    (m.effect i).isDown j = (m.isDown j && m.consumed? i != some j) := by
  have keys : (m.effect i).isDown j = (m.nextKeys i)[j.toFin] := by
    rw [effect_eq]
    rfl
  rw [keys]
  obtain ⟨op, opcode⟩ := i
  cases op with
  | skipNoKey =>
    -- The key is released whether it is down or not; released while it is up, it stays as it was.
    show (m.setDown _ false).isDown j =
      (m.isDown j && (if m.isDown _ then some _ else none) != some j)
    generalize (m.v _).extractLsb' 0 4 = asked
    rw [isDown_setDown]
    by_cases same : j = asked
    · subst same
      cases down : m.isDown j with
      | true => simp
      | false => simp
    · cases m.isDown asked with
      | true => simp [same, Ne.symm same]
      | false => simp [same]
  | waitKey =>
    rw [nextKeys, consumed?]
    cases m.lowestDown? with
    | none => exact (Bool.and_true _).symm
    | some k =>
      show (m.setDown k false).isDown j = _
      rw [isDown_setDown]
      by_cases same : j = k
      · simp [same]
      · simp only [if_neg same, bne_iff_ne.2 fun e => same (Option.some.inj e).symm, Bool.and_true]
  | _ => exact (Bool.and_true _).symm

end Machine

/-- The key that is consumed in a moment, if there is one. -/
def Moment.consumed? (moment : Moment) : Option Nibble :=
  moment.executed.bind moment.machine.consumed?

/-- What may happen to a key. -/
inductive KeyEvent where
  | pressed
  | released
  | consumed
  | reset
deriving DecidableEq, Repr

/-- Whether a value that a host presses or releases stands for a key: an integer for the key of this
number, the truth value true for every key. -/
def Value.standsFor (k : Nibble) : Value → Bool
  | .int n => n == k.toNat
  | .bool b => b
  | _ => false

/-- What happens to a key in a moment. -/
def Moment.keyEvent? (k : Nibble) : Moment → Option KeyEvent
  | ⟨_, .pressKey v⟩ => if v.standsFor k then some .pressed else none
  | ⟨_, .releaseKey v⟩ => if v.standsFor k then some .released else none
  | ⟨m, .step⟩ => if consumed? ⟨m, .step⟩ = some k then some .consumed else none
  | ⟨_, .reset⟩ => some .reset
  | _ => none

namespace Machine

open Moment

variable {m : Machine} {i : Instruction} {j k : Nibble}

/-- A step releases the key that is consumed in it; one that fails releases none. -/
lemma isDown_step (m : Machine) (j : Nibble) :
    m.step.1.isDown j = (m.isDown j && Moment.consumed? ⟨m, .step⟩ != some j) := by
  cases stopped : m.step.2 with
  | some f =>
    obtain ⟨log, result⟩ := step_of_fails stopped
    rw [Moment.consumed?, executed, stopped, result]
    exact (Bool.and_true _).symm
  | none =>
    obtain ⟨i, executes⟩ := exists_executed_of_done stopped
    obtain ⟨_, result⟩ := perform_of_executed executes
    rw [perform_step] at result
    rw [Moment.consumed?, executes, result, finishStep_eq]
    show ((m.note _).effect i).isDown j = _
    rw [isDown_effect, note_eq]
    rfl

/-- What a step consumes is consumed by the instruction that is executed in it. -/
lemma consumed?_step_eq_some_iff :
    Moment.consumed? ⟨m, .step⟩ = some k ↔ ∃ i, executed ⟨m, .step⟩ = some i ∧ m.Consumes i k := by
  rw [Moment.consumed?, Option.bind_eq_some_iff]
  simp only [consumed?_eq_some_iff]

/-- The instruction that asks for a key skips the next one if the key is up. -/
lemma pc_step_of_asking (executes : executed ⟨m, .step⟩ = some i) (asks : i.op = .skipNoKey) :
    m.step.1.pc = (m.pc + if m.isDown ((m.v i.x).extractLsb' 0 4) then 2 else 4).wrap := by
  have goesOn := pc_perform_of_executed executes
  rw [perform_step] at goesOn
  rw [goesOn, successor, asks]
  show (m.pc + if m.skips i then 4 else 2).wrap = _
  rw [skips, asks]
  cases m.isDown ((m.v i.x).extractLsb' 0 4) with
  | true => rfl
  | false => rfl

/-- The instruction that waits for a key puts the number of the key that it consumes into its
register. -/
lemma v_step_of_awaited (executes : executed ⟨m, .step⟩ = some i) (waits : i.op = .waitKey)
    (consumes : m.Consumes i k) :
    m.step.1.v i.x = k.zeroExtend 8 := by
  have taken := v_perform_of_executed executes i.x
  have lowest : m.lowestDown? = some k := by
    cases consumes with
    | asked asks _ => cases waits.symm.trans asks
    | awaited _ down lower => exact lowestDown?_eq_some_iff.2 ⟨down, lower⟩
  rw [perform_step] at taken
  rw [taken, effect, waits]
  show (m.takeKey i.x).v i.x = _
  rw [takeKey, lowest]
  exact v_setV _ _

/-! ## What happens to a key -/

/-- An integer stands for the key with this number. -/
lemma key?_eq_some_iff {n : Int} : key? (.int n) = some k ↔ n = k.toNat := by
  have below := k.isLt
  rw [key?, Option.ite_none_right_eq_some, Option.some.injEq]
  constructor
  · rintro ⟨inside, rfl⟩
    rw [BitVec.toNat_ofInt]
    simp only [Layout.keyCount] at inside
    omega
  · rintro rfl
    refine ⟨?_, ?_⟩
    · simp only [Layout.keyCount]
      omega
    · rw [BitVec.ofInt_natCast, BitVec.ofNat_toNat, BitVec.setWidth_eq]

/-- Every key is one of the keypad. -/
lemma mem_allKeys (k : Nibble) : k ∈ allKeys :=
  List.mem_map.2 ⟨k.toNat, List.mem_range.2 k.isLt, BitVec.ofNat_toNat _ _⟩

/-- The keys that a value selects are those that it stands for. -/
lemma mem_keys?_iff {v : Value} {keys : List Nibble} (selected : keys? v = some keys) :
    k ∈ keys ↔ v.standsFor k = true := by
  cases v with
  | bool b =>
    cases selected
    cases b with
    | true => exact iff_of_true (mem_allKeys k) rfl
    | false => exact iff_of_false List.not_mem_nil Bool.false_ne_true
  | int n =>
    obtain ⟨j, found, rfl⟩ := Option.map_eq_some_iff.1 selected
    rw [List.mem_singleton, Value.standsFor, beq_iff_eq, ← key?_eq_some_iff, found,
      Option.some.injEq, eq_comm]
  | _ => cases selected

/-- A value that selects no keys at all stands for none. -/
lemma standsFor_eq_false {v : Value} (none : keys? v = none) (k : Nibble) :
    v.standsFor k = false := by
  cases v with
  | bool b => cases none
  | int n =>
    have noKey : key? (.int n) ≠ some k := by
      rw [Option.map_eq_none_iff.1 none]
      nofun
    rw [Value.standsFor, beq_eq_false_iff_ne]
    exact fun same => noKey (key?_eq_some_iff.2 same)
  | _ => rfl

/-- A value stands for the key of the integer that it is, exactly unless it is a truth value. -/
lemma standsFor_iff {v : Value} :
    (∀ k : Nibble, v.standsFor k = true ↔ v.toInt? = some (k.toNat : Int)) ↔ ∀ b, v ≠ .bool b := by
  cases v with
  | bool b =>
    refine iff_of_false ?_ fun other => other b rfl
    intro same
    cases b with
    | true => exact absurd ((same 0).1 rfl) (by decide)
    | false => exact absurd ((same 0).2 rfl) Bool.false_ne_true
  | int n => exact iff_of_true (fun k => beq_iff_eq.trans (Option.some_inj).symm) nofun
  | _ => exact iff_of_true (fun k => iff_of_false Bool.false_ne_true nofun) nofun

/-- The integer of a key moves this key. -/
lemma moveKey_of_key? {v : Value} (number : key? v = some k) (down : Bool) :
    m.moveKey v down = (m.setDown k down, .done) := by
  have selected : keys? v = some [k] := by
    cases v with
    | int n => exact congrArg (Option.map ([·])) number
    | _ => cases number
  rw [moveKey, selected]
  rfl

/-- A value that is no integer from 0 to 15 is refused. -/
lemma moveKey_of_outside {v : Value}
    (outside : ∀ n, v.toInt? = some n → ¬ (0 ≤ n ∧ n < Layout.keyCount)) (down : Bool) :
    m.moveKey v down = (m, .refused (.fault (.key v))) := by
  have none : keys? v = none := by
    cases v with
    | bool b =>
      have inside : 0 ≤ b.toInt ∧ b.toInt < Layout.keyCount := by
        cases b with
        | true => decide
        | false => decide
      exact absurd inside (outside _ rfl)
    | int n => exact Option.map_eq_none_iff.2 (if_neg (outside n rfl))
    | _ => rfl
  rw [moveKey, none]

/-- Keys that a value stands for are moved, the others stay. -/
lemma isDown_moveKey (v : Value) (down : Bool) :
    (m.moveKey v down).1.isDown k = if v.standsFor k then down else m.isDown k := by
  rw [moveKey]
  cases selected : keys? v with
  | none =>
    rw [standsFor_eq_false selected k]
    rfl
  | some keys =>
    show (m.setAllDown keys down).isDown k = _
    rw [isDown_setAllDown]
    simp only [mem_keys?_iff selected]

/-- What happens to a key in a moment decides whether it is down afterwards; if nothing does, it
stays as it was. -/
lemma isDown_perform (m : Machine) (operation : Operation) (k : Nibble) :
    (m.perform operation).1.isDown k =
      ((keyEvent? k ⟨m, operation⟩).map (· == .pressed)).getD (m.isDown k) := by
  cases operation with
  | step =>
    rw [perform_step, isDown_step, keyEvent?]
    split
    · next consumed =>
      rw [consumed, bne_self_eq_false, Bool.and_false]
      rfl
    · next kept =>
      rw [bne_iff_ne.2 kept, Bool.and_true]
      rfl
  | load payload =>
    rw [perform_load_eq]
    rfl
  | reset => exact isDown_fresh m.options m.logging m.random
  | pressKey v | releaseKey v =>
    rw [perform, isDown_moveKey, keyEvent?]
    split
    · rfl
    · rfl
  | tickTimers | consumeRedraw | setLogging on => rfl

/-! ## Waiting for a key -/

/-- An instruction that waits for a key while none is down changes the timers, the count of steps
and the log. -/
lemma step_of_waiting (fetched : m.fetch = .ok i) (waits : i.op = .waitKey)
    (up : ∀ k, m.isDown k = false) :
    ∃ delay sound log, m.step =
      ({ m with delayTimer := delay, soundTimer := sound, log := log, cycles := m.cycles + 1 },
        none) := by
  have accepted : m.fault? i = none := by
    apply fault?_of_spanLength
    · simp [waits]
    · simp [waits]
    · rw [Instruction.spanLength, waits]
  have stays : ∀ m' : Machine, m'.keys = m.keys → m'.effect i = m' := by
    intro m' same
    have none : m'.lowestDown? = none := by
      rw [lowestDown?_eq_none_iff]
      intro k
      rw [← up k, isDown, isDown, same]
    rw [effect, waits]
    show m'.takeKey i.x = m'
    rw [takeKey, none]
  rw [step_of_fetch fetched, accepted]
  show ∃ delay sound log, (((m.note _).effect i).finishStep, none) = _
  rw [stays (m.note _) (by rw [note_eq]), note_eq, finishStep_eq]
  exact ⟨_, _, _, rfl⟩

/-- As long as no key is down, it goes on waiting. -/
lemma steps_of_waiting (fetched : m.fetch = .ok i) (waits : i.op = .waitKey)
    (up : ∀ k, m.isDown k = false) (count : Nat) :
    ∃ delay sound log, m.steps count =
      ({ m with delayTimer := delay, soundTimer := sound, log := log, cycles := m.cycles + count },
        none) := by
  induction count generalizing m with
  | zero => exact ⟨m.delayTimer, m.soundTimer, m.log, rfl⟩
  | succ count ih =>
    obtain ⟨delay, sound, log, first⟩ := step_of_waiting fetched waits up
    -- The next step fetches the same instruction, and still no key is down.
    have rest := ih (m := m.step.1) (by rw [first]; exact fetched) (by rw [first]; exact up)
    rw [steps_of_done (by rw [first])]
    obtain ⟨delay', sound', log', result⟩ := rest
    refine ⟨delay', sound', log', ?_⟩
    rw [result, first]
    simp only [Nat.add_assoc, Nat.add_comm 1 count]

end Machine

end Chip8
