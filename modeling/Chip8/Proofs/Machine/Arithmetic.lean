import Chip8.Proofs.Machine.Addressing
import Chip8.Proofs.Machine.Frame

/-!
# Arithmetic on two registers

What a result and a flag say together. `Flagged.Solves` relates them to the operands by an equation
between numbers, one for each operation; an equation has one solution (`Flagged.Solves.unique`), and
the operations compute it (`exists_solution`). The flag is written last, so it is found in its
register whatever the operands are: `arithmetic_loses_nothing`.
-/

namespace Chip8

/-- The operations that give a result and a flag. -/
def Op.flagged : List Op := [.add, .sub, .subn, .shr, .shl]

namespace Flagged

/-- A result and a flag that an operation may give for two operands. -/
inductive Solves (a b : Byte) : Op → ShiftFlag → Flagged → Prop where
  /-- The flag is the carry. -/
  | add {mode f} :
    f.flag.toNat ≤ 1 →
    f.result.toNat + 256 * f.flag.toNat = a.toNat + b.toNat →
    Solves a b .add mode f
  /-- The flag is the borrow. -/
  | sub {mode f} :
    f.flag.toNat ≤ 1 →
    (f.result.toNat : Int) = a.toNat - b.toNat + 256 * f.flag.toNat →
    Solves a b .sub mode f
  /-- The flag is zero if there is a borrow. -/
  | subn {mode f} :
    f.flag.toNat ≤ 1 →
    (f.result.toNat : Int) = b.toNat - a.toNat + 256 * (1 - f.flag.toNat) →
    Solves a b .subn mode f
  /-- The flag is the lowest bit. -/
  | shr {f} :
    f.flag.toNat ≤ 1 →
    2 * f.result.toNat + f.flag.toNat = a.toNat →
    Solves a b .shr .bit f
  /-- The flag is the highest bit. -/
  | shl {f} :
    f.flag.toNat ≤ 1 →
    f.result.toNat + 256 * f.flag.toNat = 2 * a.toNat →
    Solves a b .shl .bit f
  /-- The result is the same, the flag is the low nibble. -/
  | shrNibble {f g} :
    Solves a b .shr .bit g →
    f.result = g.result →
    f.flag.toNat = a.toNat &&& 0x0F →
    Solves a b .shr .nibble f
  /-- The result is the same, the flag is the high nibble, moved down by a place. -/
  | shlNibble {f g} :
    Solves a b .shl .bit g →
    f.result = g.result →
    f.flag.toNat = (a.toNat &&& 0xF0) >>> 1 →
    Solves a b .shl .nibble f

variable {a b : Byte} {op : Op} {mode : ShiftFlag} {f g : Flagged}

/-- A result and a flag are told by their numbers. -/
lemma eq_of_toNat_eq (result : f.result.toNat = g.result.toNat)
    (flag : f.flag.toNat = g.flag.toNat) : f = g := by
  cases f
  cases g
  cases BitVec.eq_of_toNat_eq result
  cases BitVec.eq_of_toNat_eq flag
  rfl

/-- Results are bytes. -/
lemma eq_of_bounds
    (same : f.result.toNat < 256 → g.result.toNat < 256 →
      f.result.toNat = g.result.toNat ∧ f.flag.toNat = g.flag.toNat) : f = g := by
  obtain ⟨result, flag⟩ := same f.result.isLt g.result.isLt
  exact eq_of_toNat_eq result flag

/-- The result is a byte, so the equation determines it and the flag. -/
lemma Solves.unique (first : Solves a b op mode f) (second : Solves a b op mode g) : f = g := by
  induction first generalizing g with
  | add flagF sumF =>
    cases second with
    | add flagG sumG => exact eq_of_bounds (by omega)
  | sub flagF differenceF =>
    cases second with
    | sub flagG differenceG => exact eq_of_bounds (by omega)
  | subn flagF differenceF =>
    cases second with
    | subn flagG differenceG => exact eq_of_bounds (by omega)
  | shr flagF halvesF =>
    cases second with
    | shr flagG halvesG => exact eq_of_bounds (by omega)
  | shl flagF doubleF =>
    cases second with
    | shl flagG doubleG => exact eq_of_bounds (by omega)
  -- The other flags leave the result to the equation of a bit, and are functions of the operand
  -- themselves.
  | shrNibble _ resultF flagF ih =>
    cases second with
    | shrNibble bit resultG flagG =>
      apply eq_of_toNat_eq
      · rw [resultF, ih bit, resultG]
      · rw [flagF, flagG]
  | shlNibble _ resultF flagF ih =>
    cases second with
    | shlNibble bit resultG flagG =>
      apply eq_of_toNat_eq
      · rw [resultF, ih bit, resultG]
      · rw [flagF, flagG]

/-- The two differences are the same, with the operands exchanged and the flag turned over. -/
lemma Solves.exchange (solved : Solves b a .sub mode f) (result : g.result = f.result)
    (flags : f.flag.toNat + g.flag.toNat = 1) : Solves a b .subn mode g := by
  cases solved with
  | sub bit difference =>
    apply Solves.subn
    · omega
    · rw [result, difference]
      omega

/-- The two subtractions have the same result in opposite orders, and opposite flags. -/
lemma Solves.opposite (first : Solves b a .sub mode f) (second : Solves a b .subn mode g) :
    g.result = f.result ∧ f.flag.toNat + g.flag.toNat = 1 := by
  have boundF : f.result.toNat < 256 := f.result.isLt
  have boundG : g.result.toNat < 256 := g.result.isLt
  cases first with
  | sub bitF differenceF =>
    cases second with
    | subn bitG differenceG => exact ⟨BitVec.eq_of_toNat_eq (by omega), by omega⟩

/-! ## The operations solve their equations -/

/-- The sum solves its equation. -/
lemma solves_add (a b : Byte) (mode : ShiftFlag) : Solves a b .add mode (.add a b) := by
  have boundA : a.toNat < 256 := a.isLt
  have boundB : b.toNat < 256 := b.isLt
  have sum : (a + b).toNat = (a.toNat + b.toNat) % 256 := BitVec.toNat_add a b
  rw [Flagged.add]
  split
  · next carry =>
    have result : (a + b).toNat + 256 * 1 = a.toNat + b.toNat := by omega
    exact .add (Nat.le_refl 1) result
  · next fits =>
    have result : (a + b).toNat + 256 * 0 = a.toNat + b.toNat := by omega
    exact .add (Nat.zero_le 1) result

/-- The difference solves its equation. -/
lemma solves_sub (a b : Byte) (mode : ShiftFlag) : Solves a b .sub mode (.sub a b) := by
  have boundA : a.toNat < 256 := a.isLt
  have boundB : b.toNat < 256 := b.isLt
  have difference : (a - b).toNat = (256 - b.toNat + a.toNat) % 256 := BitVec.toNat_sub a b
  rw [Flagged.sub]
  split
  · next borrow =>
    have less : a.toNat < b.toNat := borrow
    have result : ((a - b).toNat : Int) = a.toNat - b.toNat + 256 * (1 : Nat) := by omega
    exact .sub (Nat.le_refl 1) result
  · next enough =>
    have notLess : ¬ a.toNat < b.toNat := enough
    have result : ((a - b).toNat : Int) = a.toNat - b.toNat + 256 * (0 : Nat) := by omega
    exact .sub (Nat.zero_le 1) result

/-- The opposite difference solves its equation. -/
lemma solves_subFrom (a b : Byte) (mode : ShiftFlag) : Solves a b .subn mode (.subFrom a b) := by
  have flags : (Flagged.sub b a).flag.toNat + (subFrom a b).flag.toNat = 1 := by
    rw [Flagged.sub, subFrom]
    split
    · rfl
    · rfl
  exact Solves.exchange (g := subFrom a b) (solves_sub b a mode) rfl flags

/-- Shifting right solves its equation, with the bit that is shifted out for a flag. -/
lemma solves_shiftRight_bit (a b : Byte) : Solves a b .shr .bit (.shiftRight .bit a) := by
  have half : (a >>> 1).toNat = a.toNat / 2 := by
    rw [BitVec.toNat_ushiftRight, Nat.shiftRight_eq_div_pow, Nat.pow_one]
  have low : (a &&& 1).toNat = a.toNat % 2 := by
    rw [BitVec.toNat_and]
    exact Nat.and_one_is_mod _
  have bit : (a &&& 1).toNat ≤ 1 := by omega
  have halves : 2 * (a >>> 1).toNat + (a &&& 1).toNat = a.toNat := by omega
  exact .shr bit halves

/-- Shifting left solves its equation, with the bit that is shifted out for a flag. -/
lemma solves_shiftLeft_bit (a b : Byte) : Solves a b .shl .bit (.shiftLeft .bit a) := by
  have bound : a.toNat < 256 := a.isLt
  have twice : (a <<< 1).toNat = 2 * a.toNat % 256 := by
    rw [BitVec.toNat_shiftLeft, Nat.shiftLeft_eq, Nat.pow_one, Nat.mul_comm]
  have high : (a >>> 7).toNat = a.toNat / 128 := by
    rw [BitVec.toNat_ushiftRight, Nat.shiftRight_eq_div_pow]
  have bit : (a >>> 7).toNat ≤ 1 := by omega
  have double : (a <<< 1).toNat + 256 * (a >>> 7).toNat = 2 * a.toNat := by omega
  exact .shl bit double

/-- Shifting right solves its equation in both modes of the flag. -/
lemma solves_shiftRight (a b : Byte) (mode : ShiftFlag) :
    Solves a b .shr mode (.shiftRight mode a) := by
  cases mode with
  | bit => exact solves_shiftRight_bit a b
  | nibble => exact .shrNibble (solves_shiftRight_bit a b) rfl (BitVec.toNat_and a 0x0F)

/-- Shifting left solves its equation in both modes of the flag. -/
lemma solves_shiftLeft (a b : Byte) (mode : ShiftFlag) :
    Solves a b .shl mode (.shiftLeft mode a) := by
  cases mode with
  | bit => exact solves_shiftLeft_bit a b
  | nibble =>
    have flag : ((a &&& 0xF0) >>> 1).toNat = (a.toNat &&& 0xF0) >>> 1 := by
      rw [BitVec.toNat_ushiftRight, BitVec.toNat_and]
      rfl
    exact .shlNibble (solves_shiftLeft_bit a b) rfl flag

end Flagged

namespace Machine

variable {m : Machine} {i : Instruction}

/-! ## Registers -/

/-- The flag is in the flag register, wherever the result went. -/
lemma v_setFlagged_flag (m : Machine) (r : Nibble) (f : Flagged) :
    (m.setFlagged r f).v flagRegister = f.flag :=
  v_setV _ _

/-- The result is in its register, unless the flag went there. -/
lemma v_setFlagged_result {r : Nibble} (f : Flagged) (notFlag : r ≠ flagRegister) :
    (m.setFlagged r f).v r = f.result :=
  (v_setV_of_ne _ notFlag).trans (v_setV _ _)

/-- Every other register keeps its content. -/
lemma v_setFlagged_of_ne {r s : Nibble} (f : Flagged) (other : s ≠ r) (notFlag : s ≠ flagRegister) :
    (m.setFlagged r f).v s = m.v s :=
  (v_setV_of_ne _ notFlag).trans (v_setV_of_ne _ other)

/-- An operation on two registers is done, and writes a solution of its equation. -/
lemma exists_solution (m : Machine) (flagged : i.op ∈ Op.flagged) :
    ∃ f, Flagged.Solves (m.v i.x) (m.v i.y) i.op m.options.shiftFlag f ∧
      m.execute i = .ok (m.setFlagged i.x f).next := by
  obtain ⟨op, opcode⟩ := i
  have accepted (notRet : op ≠ .ret) (notCall : op ≠ .call)
      (span : Instruction.spanLength ⟨op, opcode⟩ = 0) :
      m.execute ⟨op, opcode⟩ = .ok (m.effect ⟨op, opcode⟩) :=
    execute_eq_ok_iff.2 ⟨fault?_of_spanLength notRet notCall span, rfl⟩
  simp only [Op.flagged, List.mem_cons, List.not_mem_nil, or_false] at flagged
  rcases flagged with rfl | rfl | rfl | rfl | rfl
  · exact ⟨_, Flagged.solves_add _ _ _, accepted nofun nofun rfl⟩
  · exact ⟨_, Flagged.solves_sub _ _ _, accepted nofun nofun rfl⟩
  · exact ⟨_, Flagged.solves_subFrom _ _ _, accepted nofun nofun rfl⟩
  · exact ⟨_, Flagged.solves_shiftRight _ _ _, accepted nofun nofun rfl⟩
  · exact ⟨_, Flagged.solves_shiftLeft _ _ _, accepted nofun nofun rfl⟩

/-- Arithmetic on two registers loses nothing. Whatever the operands and wherever they are, the
operation is done, and its equation has one solution: the flag is found in the flag register, the
result in the first operand unless that is the flag register, and no other register changes. The two
differences, one with the operands exchanged, give the same result and opposite flags. -/
theorem arithmetic_loses_nothing (m : Machine) :
    (∀ i : Instruction, i.op ∈ Op.flagged →
      ∃ m' f, m.execute i = .ok m' ∧
        Flagged.Solves (m.v i.x) (m.v i.y) i.op m.options.shiftFlag f ∧
        (∀ g, Flagged.Solves (m.v i.x) (m.v i.y) i.op m.options.shiftFlag g → g = f) ∧
        m'.v flagRegister = f.flag ∧
        (i.x ≠ flagRegister → m'.v i.x = f.result) ∧
        ∀ r, r ≠ i.x → r ≠ flagRegister → m'.v r = m.v r) ∧
    ∀ i j : Instruction, i.op = .sub → j.op = .subn → j.x = i.y → j.y = i.x →
      i.x ≠ flagRegister → i.y ≠ flagRegister →
      ∃ m' m'', m.execute i = .ok m' ∧ m.execute j = .ok m'' ∧
        m''.v i.y = m'.v i.x ∧
        (m'.v flagRegister).toNat + (m''.v flagRegister).toNat = 1 := by
  constructor
  · intro i flagged
    obtain ⟨f, solved, done⟩ := m.exists_solution flagged
    refine ⟨_, f, done, solved, fun g other => other.unique solved,
      m.v_setFlagged_flag i.x f, ?_, ?_⟩
    · intro notFlag
      exact v_setFlagged_result f notFlag
    · intro r other notFlag
      exact v_setFlagged_of_ne f other notFlag
  · intro i j sub subn first second notFlag notFlag'
    obtain ⟨f, solved, done⟩ := m.exists_solution (i := i) (by simp [sub, Op.flagged])
    obtain ⟨g, solved', done'⟩ := m.exists_solution (i := j) (by simp [subn, Op.flagged])
    rw [sub] at solved
    rw [subn, first, second] at solved'
    obtain ⟨result, flags⟩ := solved.opposite solved'
    refine ⟨_, _, done, done', ?_, ?_⟩
    · rw [first]
      exact (v_setFlagged_result g notFlag').trans
        (result.trans (v_setFlagged_result f notFlag).symm)
    · have flag : (m.setFlagged i.x f).next.v flagRegister = f.flag := m.v_setFlagged_flag i.x f
      have flag' : (m.setFlagged j.x g).next.v flagRegister = g.flag := m.v_setFlagged_flag j.x g
      rw [flag, flag']
      exact flags

/-- A sum that carries by nothing, with the flag register as its first operand: the flag wins. Two
registers subtracted both ways give the same result. -/
theorem flag_wins :
    let m : Machine :=
      ((fresh ⟨.bit, false, true⟩ false (.cycle 0 [])).setV 1 0x9B).setV flagRegister 0x65
    (∃ m', m.execute ⟨.add, 0x8F14⟩ = .ok m' ∧ m'.v flagRegister = 1 ∧ m'.v 1 = 0x9B) ∧
      ∃ m' m'', m.execute ⟨.sub, 0x8125⟩ = .ok m' ∧ m.execute ⟨.subn, 0x8217⟩ = .ok m'' ∧
      m''.v 2 = m'.v 1 ∧
        (m'.v flagRegister).toNat + (m''.v flagRegister).toNat = 1 := by
  intro m
  obtain ⟨each, opposite⟩ := arithmetic_loses_nothing m
  constructor
  · obtain ⟨m', f, done, _, unique, flag, _, others⟩ := each ⟨.add, 0x8F14⟩ (by decide)
    have sum : f = .add 0x65 0x9B := (unique _ (Flagged.solves_add _ _ _)).symm
    refine ⟨m', done, ?_, others 1 (by decide) (by decide)⟩
    rw [flag, sum]
    rfl
  · exact opposite ⟨.sub, 0x8125⟩ ⟨.subn, 0x8217⟩ rfl rfl (by decide) (by decide)
      (by decide) (by decide)

end Machine

end Chip8
