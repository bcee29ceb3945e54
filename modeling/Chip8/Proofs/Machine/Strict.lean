import Chip8.Proofs.Machine.Access
import Chip8.Proofs.Machine.History

/-!
# Strict machines and machines that wrap

A strict machine and one that wraps around differ in the faults of addresses and in nothing else.
`strictly` changes the mode of a machine; no instruction looks at it, so the same step is made in
both modes if both make it (`step_strictly`), and no other operation looks at it at all
(`perform_strictly`). So two machines that differ in the mode go the same way until the strict one
stops at an address (`perform_agrees`), and it stops exactly where the other goes beyond the last
address: `strict_refines_wrapping`.
-/

namespace Chip8

/-- Whether an operation was refused for an address. -/
def Answer.isAddressFault (answer : Answer) : Prop := ∃ a, answer = .refused (.fault (.address a))

/-- The fault of an address tells the address. -/
lemma Fault.address_inj {a a' : Nat} : address a = address a' ↔ a = a' := by
  constructor
  · intro same
    injection same with _ same
    injection same with same
    exact Int.ofNat.inj same
  · rintro rfl
    rfl

namespace Machine

/-- The machine with strict addresses, or with addresses that wrap around. -/
def strictly (m : Machine) (strict : Bool) : Machine :=
  { m with options := { m.options with strict := strict } }

/-- The address that a strict machine reports where one that wraps goes beyond the last address: the
first address of the fetch that lies beyond, or else the last address of all. -/
def reported (addresses : List Nat) : Nat :=
  ((addresses.take 2).find? (Layout.lastAddress < ·)).getD (addresses.getLast?.getD 0)

variable (m : Machine) (b : Bool) (i : Instruction)

/-! ## Where a strict machine stops -/

variable {m}

/-- A machine that wraps goes beyond the last address at the fetch or at the end of the stretch. -/
lemma exists_dereferenced_iff :
    (∃ a ∈ (m.strictly false).dereferenced, Layout.lastAddress < a) ↔
      Layout.lastAddress < m.pc.toNat + 1 ∨
        0 < (Instruction.decode m.opcode).spanLength ∧
          Layout.lastAddress < m.index.toNat + (Instruction.decode m.opcode).spanLength - 1 := by
  rw [Access.dereferenced_eq rfl, show (m.strictly false).opcode = m.opcode from rfl]
  generalize (Instruction.decode m.opcode).spanLength = count
  constructor
  · rintro ⟨a, inside, beyond⟩
    simp only [Access.stretch, List.mem_cons, List.mem_map, List.mem_range] at inside
    rcases inside with rfl | rfl | ⟨j, lt, rfl⟩
    · exact .inl (Nat.lt_succ_of_lt beyond)
    · exact .inl beyond
    · refine .inr ⟨by omega, ?_⟩
      exact Nat.lt_of_lt_of_le beyond (show m.index.toNat + j ≤ _ by omega)
  · rintro (beyond | ⟨pos, beyond⟩)
    · exact ⟨m.pc.toNat + 1, .tail _ (.head _), beyond⟩
    · refine ⟨m.index.toNat + count - 1, .tail _ (.tail _ ?_), beyond⟩
      exact List.mem_map.2 ⟨count - 1, List.mem_range.2 (by omega), (Nat.add_sub_assoc pos _).symm⟩

/-- What is reported of two addresses and a stretch behind them. -/
lemma reported_cons_cons (high low : Nat) (rest : List Nat) :
    reported (high :: low :: rest) =
      if Layout.lastAddress < high then high
      else if Layout.lastAddress < low then low
      else (high :: low :: rest).getLast?.getD 0 := by
  rw [reported, List.take_succ_cons, List.take_succ_cons, List.take_zero, List.find?_cons,
    List.find?_cons]
  by_cases first : Layout.lastAddress < high
  · rw [if_pos first, decide_eq_true first]
    rfl
  · rw [if_neg first, decide_eq_false first]
    by_cases second : Layout.lastAddress < low
    · rw [if_pos second, decide_eq_true second]
      rfl
    · rw [if_neg second, decide_eq_false second]
      rfl

/-- What is reported of the addresses of a step. -/
lemma reported_dereferenced :
    reported (m.strictly false).dereferenced =
      if Layout.lastAddress < m.pc.toNat then m.pc.toNat
      else if Layout.lastAddress < m.pc.toNat + 1 then m.pc.toNat + 1
      else if (Instruction.decode m.opcode).spanLength = 0 then m.pc.toNat + 1
      else m.index.toNat + (Instruction.decode m.opcode).spanLength - 1 := by
  have last (count : Nat) :
      (m.pc.toNat :: (m.pc.toNat + 1) :: Access.stretch m count).getLast?.getD 0 =
      if count = 0 then m.pc.toNat + 1 else m.index.toNat + count - 1 := by
    cases count with
    | zero => rfl
    | succ count => simp [Access.stretch, List.range_succ, List.getLast?_cons]
  rw [← last, Access.dereferenced_eq rfl]
  exact reported_cons_cons _ _ _

/-- A strict machine refuses the addresses beyond the last. -/
lemma addressFault?_strictly_iff {a v : Nat} :
    (m.strictly true).addressFault? a = some (.address v) ↔ Layout.lastAddress < a ∧ v = a := by
  rw [addressFault?_eq_some_iff, Fault.address_inj]
  exact and_iff_right rfl

/-- It accepts all others. -/
lemma addressFault?_strictly_eq_none_iff {a : Nat} :
    (m.strictly true).addressFault? a = none ↔ a ≤ Layout.lastAddress := by
  rw [addressFault?_eq_none_iff]
  exact or_iff_right Bool.noConfusion

/-- A strict machine refuses an instruction for an address if the stretch of the instruction ends
beyond the last. -/
lemma fault?_strictly_iff {v : Nat} :
    (m.strictly true).fault? i = some (.address v) ↔
      0 < i.spanLength ∧ Layout.lastAddress < m.index.toNat + i.spanLength - 1 ∧
        v = m.index.toNat + i.spanLength - 1 := by
  rw [fault?_eq_some_iff, spanFault?_eq_some_iff, Fault.address_inj]
  constructor
  · rintro (⟨_, _, other⟩ | ⟨_, _, other⟩ | ⟨_, span⟩)
    · cases other
    · cases other
    · exact span
  · intro span
    exact .inr (.inr ⟨rfl, span⟩)

/-- Where a strict machine stops for an address. -/
lemma strict_fault_iff {v : Nat} :
    (m.strictly true).step.2 = some (.address v) ↔
      Layout.lastAddress < m.pc.toNat ∧ v = m.pc.toNat ∨
      m.pc.toNat = Layout.lastAddress ∧ v = m.pc.toNat + 1 ∨
      m.pc.toNat + 1 ≤ Layout.lastAddress ∧ 0 < (Instruction.decode m.opcode).spanLength ∧
        Layout.lastAddress < m.index.toNat + (Instruction.decode m.opcode).spanLength - 1 ∧
        v = m.index.toNat + (Instruction.decode m.opcode).spanLength - 1 := by
  have samePc : (m.strictly true).pc = m.pc := rfl
  have sameOpcode : (m.strictly true).opcode = m.opcode := rfl
  rw [step_fault_iff, fetch_eq_error_iff]
  simp only [fetch_eq_ok_iff, addressFault?_strictly_iff, addressFault?_strictly_eq_none_iff,
    fault?_strictly_iff, and_assoc, exists_and_left, exists_eq_left, samePc, sameOpcode]
  omega

/-! ## Both at once -/

/-- What an operation other than a step does, and answers, does not depend on the mode. -/
lemma perform_strictly {operation : Operation} (notStep : operation ≠ .step) :
    (m.strictly b).perform operation =
      ((m.perform operation).1.strictly b, (m.perform operation).2) := by
  have program (m : Machine) (rom : Rom) : (m.strictly b).withProgram rom =
      (m.withProgram rom).strictly b :=
    withProgram_withRest m { m.rest with options := { m.options with strict := b } } rom
  cases operation with
  | step => exact absurd rfl notStep
  | load payload => exact perform_load_comm (f := (strictly · b)) program m payload
  | pressKey v | releaseKey v => exact moveKey_comm (f := (strictly · b)) (fun _ _ _ => rfl) m v _
  | reset | tickTimers | consumeRedraw | setLogging on => rfl

/-- What a strict machine can fetch, a machine that wraps fetches too. -/
lemma fetch_strictly (fetched : (m.strictly true).fetch = .ok i) :
    (m.strictly b).fetch = .ok i := by
  obtain ⟨high, low, rfl⟩ := fetch_eq_ok_iff.1 fetched
  rw [addressFault?_strictly_eq_none_iff] at high low
  exact fetch_eq_ok_iff.2 ⟨addressFault?_eq_none_iff.2 (.inr high),
    addressFault?_eq_none_iff.2 (.inr low), rfl⟩

/-- An instruction that a strict machine does not refuse for an address is refused in both modes or
in none. -/
lemma fault?_strictly (noFault : ∀ v, (m.strictly true).fault? i ≠ some (.address v)) :
    (m.strictly b).fault? i = (m.strictly true).fault? i := by
  cases b with
  | true => rfl
  | false =>
    -- Returns and calls ask the stack, which the modes share. A stretch is refused in the strict
    -- mode only.
    apply Option.ext
    intro f
    constructor
    · intro refused
      rw [fault?_eq_some_iff] at refused ⊢
      rcases refused with ret | call | span
      · exact .inl ret
      · exact .inr (.inl call)
      · rw [spanFault?_of_not_strict _ rfl] at span
        cases span
    · intro refused
      have cause := fault?_eq_some_iff.1 refused
      rw [fault?_eq_some_iff]
      rcases cause with ret | call | span
      · exact .inl ret
      · exact .inr (.inl call)
      · obtain ⟨_, _, _, rfl⟩ := spanFault?_eq_some_iff.1 span
        exact absurd refused (noFault _)

/-- A step that does not stop for an address has fetched an instruction that is not refused for
one. -/
lemma exists_fetch_of_noFault (noFault : ∀ v, (m.strictly true).step.2 ≠ some (.address v)) :
    ∃ i, (m.strictly true).fetch = .ok i ∧ ∀ v, (m.strictly true).fault? i ≠ some (.address v) := by
  cases fetched : (m.strictly true).fetch with
  | error f =>
    -- A fetch fails for nothing but an address.
    have stopped := step_fault_iff.2 (.inl fetched)
    rcases fetch_eq_error_iff.1 fetched with high | ⟨_, low⟩
    · obtain ⟨_, _, rfl⟩ := addressFault?_eq_some_iff.1 high
      exact absurd stopped (noFault _)
    · obtain ⟨_, _, rfl⟩ := addressFault?_eq_some_iff.1 low
      exact absurd stopped (noFault _)
  | ok i =>
    refine ⟨i, rfl, ?_⟩
    intro v refused
    exact noFault v (step_fault_iff.2 (.inr ⟨i, fetched, refused⟩))

/-- A step at which a strict machine does not stop for an address is the same step in both modes. -/
lemma step_strictly (noFault : ∀ v, (m.strictly true).step.2 ≠ some (.address v)) (b : Bool) :
    (m.strictly b).step = ((m.strictly true).step.1.strictly b, (m.strictly true).step.2) := by
  obtain ⟨i, fetched, accepted⟩ := exists_fetch_of_noFault noFault
  have sameFetch : (m.strictly b).fetch = (m.strictly true).fetch :=
    (fetch_strictly b i fetched).trans fetched.symm
  have sameFault : ∀ j, (m.strictly true).fetch = .ok j →
      (m.strictly b).fault? j = (m.strictly true).fault? j := by
    intro j other
    cases fetched.symm.trans other
    exact fault?_strictly b i accepted
  have same : (m.strictly b).step =
      ((m.strictly true).step.1.withRest (m.strictly b).nextRest, (m.strictly true).step.2) :=
    step_withRest (m := m.strictly true) (r := (m.strictly b).rest) sameFetch sameFault
      fun _ _ => ⟨rfl, rfl, fun _ => rfl, fun _ => rfl, fun _ => rfl⟩
  have rest : (m.strictly b).nextRest =
      { (m.strictly true).nextRest with
        options := { (m.strictly true).nextRest.options with strict := b } } :=
    nextRest_related (m.strictly true) (m.strictly b)
      (P := fun r r' => r' = { r with options := { r.options with strict := b } })
      sameFetch sameFault rfl (fun _ => rfl) fun _ _ => rfl
  rw [same, rest, ← rest_step]
  rfl

/-- An operation that a strict machine does not refuse for an address is the same operation in both
modes. -/
lemma perform_agrees {operation : Operation}
    (noFault : ¬ ((m.strictly true).perform operation).2.isAddressFault) :
    ∃ (m' : Machine) (answer : Answer), ∀ b, (m.strictly b).perform operation =
      (m'.strictly b, answer) := by
  by_cases isStep : operation = .step
  · subst isStep
    have stepNoFault : ∀ v, (m.strictly true).step.2 ≠ some (.address v) := by
      intro v stopped
      apply noFault
      rw [perform_step, stopped]
      exact ⟨v, rfl⟩
    refine ⟨(m.strictly true).step.1, ((m.strictly true).step.2.map fun f =>
      .refused (.fault f)).getD .done, ?_⟩
    intro b
    rw [perform_step, step_strictly stepNoFault b]
  · exact ⟨_, _, fun b => perform_strictly b isStep⟩

/-- Both modes go the same way as long as the strict one does not stop for an address. -/
lemma performAll_agrees {operations : List Operation}
    (noFault : ∀ answer ∈ ((m.strictly true).performAll operations).2, ¬ answer.isAddressFault) :
    ∃ (m' : Machine) (answers : List Answer), ∀ b, (m.strictly b).performAll operations =
      (m'.strictly b, answers) := by
  induction operations generalizing m with
  | nil => exact ⟨m, [], fun b => rfl⟩
  | cons operation operations ih =>
    obtain ⟨m₁, answer, one⟩ := perform_agrees (noFault _ (.head _))
    have rest : ∀ answer ∈ ((m₁.strictly true).performAll operations).2,
        ¬ answer.isAddressFault := by
      intro answer inside
      apply noFault
      rw [performAll, one]
      exact .tail _ inside
    obtain ⟨m₂, answers, all⟩ := ih rest
    refine ⟨m₂, answer :: answers, ?_⟩
    intro b
    simp only [performAll, one, all]

/-- A strict machine and one that wraps, alike in all else, go the same way as long as the strict
one does not stop for an address. It stops for an address in exactly those steps in which the other
goes beyond the last address, and reports the first address of the fetch beyond the last, or else
the end of the stretch. -/
theorem strict_refines_wrapping (m : Machine) :
    (∀ operations, (∀ answer ∈ ((m.strictly true).performAll operations).2,
      ¬ answer.isAddressFault) →
      ∃ (m' : Machine) (answers : List Answer),
        (m.strictly true).performAll operations = (m'.strictly true, answers) ∧
        (m.strictly false).performAll operations = (m'.strictly false, answers)) ∧
    (∀ v, (m.strictly true).step.2 = some (.address v) ↔
      (∃ a ∈ (m.strictly false).dereferenced, Layout.lastAddress < a) ∧
        v = reported (m.strictly false).dereferenced) ∧
    (m.strictly false).dereferenced =
      m.pc.toNat :: (m.pc.toNat + 1) :: Access.stretch m
        (Instruction.decode m.opcode).spanLength := by
  refine ⟨?_, ?_, Access.dereferenced_eq rfl⟩
  · intro operations noFault
    obtain ⟨m', answers, all⟩ := performAll_agrees noFault
    exact ⟨m', answers, all true, all false⟩
  · intro v
    rw [strict_fault_iff, exists_dereferenced_iff, reported_dereferenced]
    split
    · omega
    · split
      · omega
      · split
        · omega
        · omega

/-- A program that points the index register near the end of memory goes the same way in both modes.
When it then stores three registers there, a strict machine stops for the last of their
addresses. -/
theorem strict_stops_at_store :
    let m : Machine :=
      (fresh ⟨.bit, false, true⟩ false (.cycle 0 [])).writeFrom Layout.programStart
        [0xAF, 0xFE, 0xF2, 0x55]
    (∃ (m' : Machine) (answers : List Answer),
      (m.strictly true).performAll [.step] = (m'.strictly true, answers) ∧
      (m.strictly false).performAll [.step] = (m'.strictly false, answers)) ∧
    (m.step.1.strictly true).step.2 = some (.address 0x1000) := by
  intro m
  constructor
  · apply (strict_refines_wrapping m).1
    have done : (m.strictly true).step.2 = none := Option.isNone_iff_eq_none.1 (by decide +kernel)
    rw [performAll, perform_step, done]
    rintro answer (_ | ⟨_, ⟨⟩⟩) ⟨a, refused⟩
    cases refused
  · apply ((strict_refines_wrapping m.step.1).2.1 0x1000).2
    exact ⟨⟨0x1000, by decide +kernel, by decide⟩, by decide +kernel⟩

end Machine

end Chip8
