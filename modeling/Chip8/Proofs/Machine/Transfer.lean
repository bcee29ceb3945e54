import Chip8.Proofs.Machine.Addressing
import Chip8.Proofs.Machine.Drawing

/-!
# Registers and memory

What three instructions move between registers and memory, address by address. `offset` counts how
far an address lies behind the index register, around the end of memory; what is written from there
on is found at its offset (`byteAt_writeSpan`), and what is put into the registers from the first
one on is found at its number (`v_setRegisters_zero`). So registers that were stored can be loaded
again, and a stretch that was loaded can be stored again: `stores_and_loads`.
-/

namespace Chip8.Machine

variable {m m' : Machine} {i : Instruction} {bytes : List Byte}

/-- How far an address lies behind the index register, counted around the end of memory. -/
def offset (m : Machine) (a : Address) : Nat :=
  (((a.toNat : Int) - m.index.toNat) % Layout.memorySize).toNat

/-! ## Stretches of memory -/

/-- The byte at an offset stands at its address. -/
lemma ofNat_offset (m : Machine) (a : Address) :
    BitVec.ofNat 12 (m.index.toNat + m.offset a) = a := by
  apply BitVec.eq_of_toNat_eq
  have bound : a.toNat < 4096 := a.isLt
  rw [BitVec.toNat_ofNat, offset]
  simp only [Layout.memorySize]
  omega

/-- The byte so many places behind the index register has this offset. -/
lemma offset_ofNat (m : Machine) {j : Nat} (inside : j < Layout.memorySize) :
    m.offset (BitVec.ofNat 12 (m.index.toNat + j)) = j := by
  rw [offset, BitVec.toNat_ofNat]
  simp only [Layout.memorySize] at inside ⊢
  omega

/-- What is written from the index register on is found at its offset, and nothing else changes. -/
lemma byteAt_writeSpan (fits : bytes.length ≤ Layout.memorySize) (a : Address) :
    (m.writeSpan bytes).byteAt a = bytes[m.offset a]?.getD (m.byteAt a) := by
  by_cases inside : m.offset a < bytes.length
  · have written : (m.writeFrom m.index.toNat bytes).byteAt
        (BitVec.ofNat 12 (m.index.toNat + m.offset a)) =
        bytes[m.offset a] := byteAt_writeFrom fits inside
    rw [ofNat_offset] at written
    rw [writeSpan, written, List.getElem?_eq_getElem inside, Option.getD_some]
  · -- An address that is written lies as far behind the index register as its byte in the list.
    have beyond : ∀ j < bytes.length, a ≠ BitVec.ofNat 12 (m.index.toNat + j) := by
      rintro j short rfl
      rw [offset_ofNat m (Nat.lt_of_lt_of_le short fits)] at inside
      exact inside short
    rw [writeSpan, byteAt_writeFrom_of_forall_ne beyond,
      List.getElem?_eq_none (Nat.le_of_not_lt inside), Option.getD_none]

/-- What is put into the registers from the first one on is found at its number, and nothing else
changes. -/
lemma v_setRegisters_zero (fits : bytes.length ≤ Layout.registerCount) (r : Nibble) :
    (m.setRegisters 0 bytes).v r = bytes[r.toNat]?.getD (m.v r) := by
  have number : BitVec.ofNat 4 (0 + r.toNat) = r := by
    rw [Nat.zero_add, BitVec.ofNat_toNat, BitVec.setWidth_eq]
  by_cases inside : r.toNat < bytes.length
  · have filled : (m.setRegisters 0 bytes).v (BitVec.ofNat 4 (0 + r.toNat)) = bytes[r.toNat] :=
      v_setRegisters fits inside
    rw [number] at filled
    rw [filled, List.getElem?_eq_getElem inside, Option.getD_some]
  · have beyond : ∀ j < bytes.length, r ≠ BitVec.ofNat 4 (0 + j) := by
      rintro j short rfl
      have bound : bytes.length ≤ 16 := fits
      rw [BitVec.toNat_ofNat, Nat.zero_add, Nat.mod_eq_of_lt (by omega)] at inside
      exact inside short
    rw [v_setRegisters_of_forall_ne beyond, List.getElem?_eq_none (Nat.le_of_not_lt inside),
      Option.getD_none]

/-- What is made of the numbers below a bound is found by its number. -/
lemma getElem?_map_range {α : Type} (f : Nat → α) (count j : Nat) :
    ((List.range count).map f)[j]? = if j < count then some (f j) else none := by
  rw [List.getElem?_map]
  by_cases inside : j < count
  · rw [List.getElem?_range inside, if_pos inside, Option.map_some]
  · rw [List.getElem?_eq_none (by rw [List.length_range]; exact Nat.le_of_not_lt inside),
      if_neg inside, Option.map_none]

/-- There are no more registers to transfer than the machine has. -/
lemma length_registersTo_le (m : Machine) (last : Nibble) :
    (m.registersTo last).length ≤ Layout.registerCount := by
  rw [registersTo, List.length_map, List.length_range]
  exact last.isLt

/-! ## Instructions -/

/-- The registers up to the operand stand in memory behind the index register. -/
lemma byteAt_effect_of_store (op : i.op = .store) (a : Address) :
    (m.effect i).byteAt a = if m.offset a ≤ i.x.toNat then m.v (BitVec.ofNat 4 (m.offset a))
      else m.byteAt a := by
  have fits : (m.registersTo i.x).length ≤ Layout.memorySize :=
    Nat.le_trans (m.length_registersTo_le i.x) (by decide)
  have stored : (m.effect i).byteAt a = (m.writeSpan (m.registersTo i.x)).byteAt a := by
    rw [effect, op]
    rfl
  rw [stored, byteAt_writeSpan fits, registersTo, getElem?_map_range]
  simp only [Nat.lt_succ_iff]
  split
  · rfl
  · rfl

/-- The bytes behind the index register stand in the registers up to the operand. -/
lemma v_effect_of_load (op : i.op = .load) (r : Nibble) :
    (m.effect i).v r =
      if r.toNat ≤ i.x.toNat then m.byteAt (BitVec.ofNat 12 (m.index.toNat + r.toNat))
      else m.v r := by
  have count : i.spanLength = i.x.toNat + 1 := by rw [Instruction.spanLength, op]
  have fits : (m.readSpan i.spanLength).length ≤ Layout.registerCount := by
    rw [length_readSpan, count]
    exact i.x.isLt
  have loaded : (m.effect i).v r = (m.setRegisters 0 (m.readSpan i.spanLength)).v r := by
    rw [effect, op]
    rfl
  rw [loaded, v_setRegisters_zero fits, readSpan, readFrom, getElem?_map_range, count]
  simp only [Nat.lt_succ_iff]
  split
  · rfl
  · rfl

/-- The decimal digits of the operand stand in memory behind the index register. -/
lemma byteAt_effect_of_storeDecimal (op : i.op = .storeDecimal) (a : Address) :
    (m.effect i).byteAt a = (decimalDigits (m.v i.x))[m.offset a]?.getD (m.byteAt a) := by
  have fits : (decimalDigits (m.v i.x)).length ≤ Layout.memorySize := by
    show 3 ≤ 4096
    decide
  have stored : (m.effect i).byteAt a = (m.writeSpan (decimalDigits (m.v i.x))).byteAt a := by
    rw [effect, op]
    rfl
  rw [stored, byteAt_writeSpan fits]

/-- The digits of a register are found in memory in their order. -/
lemma getElem?_decimalDigits (op : i.op = .storeDecimal) {j : Nat} (inside : j < 3) :
    (decimalDigits (m.v i.x))[j]? =
      some ((m.effect i).byteAt (BitVec.ofNat 12 (m.index.toNat + j))) := by
  have short : j < (decimalDigits (m.v i.x)).length := inside
  have below : j < Layout.memorySize := Nat.lt_trans inside (by decide)
  rw [byteAt_effect_of_storeDecimal op, offset_ofNat m below, List.getElem?_eq_getElem short,
    Option.getD_some]

/-- Three digits stand for a byte. -/
lemma decimalDigits_sound (b : Byte) :
    (∀ d ∈ decimalDigits b, d.toNat ≤ 9) ∧
      100 * (b / 100).toNat + 10 * (b / 10 % 10).toNat + (b % 10).toNat = b.toNat := by
  have bound : b.toNat < 256 := b.isLt
  have ten : (10 : Byte).toNat = 10 := rfl
  have hundred : (100 : Byte).toNat = 100 := rfl
  simp only [decimalDigits, List.forall_mem_cons, BitVec.toNat_udiv, BitVec.toNat_umod, ten,
    hundred]
  refine ⟨⟨?_, ?_, ?_, nofun⟩, ?_⟩
  all_goals omega

/-- Neither of the three moves the index register. -/
lemma index_effect_of_transfer (op : i.op = .store ∨ i.op = .load ∨ i.op = .storeDecimal) :
    (m.effect i).index = m.index := by
  rw [effect_eq]
  rcases op with op | op | op
  all_goals rw [nextIndex, op]

/-- Whether registers can be moved depends on the operand, the index register and the options. -/
lemma fault?_of_transfer {j : Instruction} (moves : i.op = .store ∨ i.op = .load)
    (moves' : j.op = .store ∨ j.op = .load) (same : j.x = i.x) (index : m'.index = m.index)
    (options : m'.options = m.options) : m'.fault? j = m.fault? i := by
  have span {m : Machine} {i : Instruction} (moves : i.op = .store ∨ i.op = .load) :
      m.fault? i = m.spanFault? (i.x.toNat + 1) := by
    rcases moves with op | op
    all_goals rw [fault?, Instruction.spanLength, op]
  rw [span moves, span moves', spanFault?, spanFault?, addressFault?, addressFault?, same, index,
    options]

/-! ## There and back -/

/-- Registers that were stored can be loaded again, whatever became of them. -/
lemma v_load_after_store {store load : Instruction} (isStore : store.op = .store)
    (isLoad : load.op = .load) (same : load.x = store.x)
    (memory : m'.memory = (m.effect store).memory) (index : m'.index = m.index) {r : Nibble}
    (moved : r.toNat ≤ store.x.toNat) : (m'.effect load).v r = m.v r := by
  have below : r.toNat < Layout.memorySize := Nat.lt_trans r.isLt (by decide)
  have kept (a : Address) : m'.byteAt a = (m.effect store).byteAt a := by
    rw [byteAt, memory, byteAt]
  rw [v_effect_of_load isLoad, same, if_pos moved, kept, byteAt_effect_of_store isStore, index,
    offset_ofNat m below, if_pos moved, BitVec.ofNat_toNat, BitVec.setWidth_eq]

/-- A stretch that was loaded can be stored again, and leaves memory as it was. -/
lemma byteAt_store_after_load {store load : Instruction} (isStore : store.op = .store)
    (isLoad : load.op = .load) (same : load.x = store.x) (a : Address) :
    ((m.effect load).effect store).byteAt a = m.byteAt a := by
  have index := index_effect_of_transfer (m := m) (.inr (.inl isLoad))
  have sameOffset : (m.effect load).offset a = m.offset a := by rw [offset, index, offset]
  have kept : (m.effect load).byteAt a = m.byteAt a := by
    rw [effect_eq]
    apply getElem_nextMemory
    rw [Machine.stores, isLoad]
    exact id
  rw [byteAt_effect_of_store isStore, sameOffset, kept]
  by_cases moved : m.offset a ≤ store.x.toNat
  · have number : (BitVec.ofNat 4 (m.offset a)).toNat = m.offset a := by
      rw [BitVec.toNat_ofNat, Nat.mod_eq_of_lt (Nat.lt_of_le_of_lt moved store.x.isLt)]
    rw [if_pos moved, v_effect_of_load isLoad, number, same, if_pos moved, ofNat_offset]
  · rw [if_neg moved]

/-- Storing and loading registers, address by address. A machine that wraps refuses neither them nor
the decimal digits. Whenever they are done: the registers up to the operand stand in memory behind
the index register, or what stands there is in these registers, and all else there and the index
register stay. So registers that were stored come back by loading, whatever became of them, and a
stretch that was loaded is stored back without a change. The three digits of a register are decimal,
and stand for it. -/
theorem stores_and_loads (m : Machine) {store load decimal : Instruction}
    (isStore : store.op = .store) (isLoad : load.op = .load) (same : load.x = store.x)
    (isDecimal : decimal.op = .storeDecimal) :
    (m.options.strict = false →
      (∃ m', m.execute store = .ok m') ∧ (∃ m', m.execute load = .ok m') ∧
      ∃ m', m.execute decimal = .ok m') ∧
    (∀ m', m.execute store = .ok m' →
      (∀ a, m'.byteAt a =
        if m.offset a ≤ store.x.toNat then m.v (BitVec.ofNat 4 (m.offset a)) else m.byteAt a) ∧
      m'.index = m.index ∧
      ∀ changed : Machine, changed.memory = m'.memory → changed.index = m'.index →
      changed.options = m'.options →
        ∃ m'', changed.execute load = .ok m'' ∧ ∀ r, r.toNat ≤ store.x.toNat → m''.v r = m.v r) ∧
    (∀ m', m.execute load = .ok m' →
      (∀ r, m'.v r =
        if r.toNat ≤ load.x.toNat then m.byteAt (BitVec.ofNat 12 (m.index.toNat + r.toNat))
        else m.v r) ∧
      m'.index = m.index ∧
      ∃ m'', m'.execute store = .ok m'' ∧ ∀ a, m''.byteAt a = m.byteAt a) ∧
    ∀ m', m.execute decimal = .ok m' →
      let digit (j : Nat) := (m'.byteAt (BitVec.ofNat 12 (m.index.toNat + j))).toNat
      (∀ j < 3, digit j ≤ 9) ∧
      100 * digit 0 + 10 * digit 1 + digit 2 = (m.v decimal.x).toNat ∧
      ∀ a, 3 ≤ m.offset a → m'.byteAt a = m.byteAt a := by
  refine ⟨?_, ?_, ?_, ?_⟩
  · intro wraps
    have done {i : Instruction} (notRet : i.op ≠ .ret) (notCall : i.op ≠ .call) : ∃ m',
        m.execute i = .ok m' :=
      ⟨_, execute_eq_ok_iff.2 ⟨fault?_of_not_strict wraps notRet notCall, rfl⟩⟩
    exact ⟨done (by simp [isStore]) (by simp [isStore]), done (by simp [isLoad]) (by simp [isLoad]),
      done (by simp [isDecimal]) (by simp [isDecimal])⟩
  · intro m' done
    obtain ⟨accepted, rfl⟩ := execute_eq_ok_iff.1 done
    have index := index_effect_of_transfer (m := m) (.inl isStore)
    refine ⟨byteAt_effect_of_store isStore, index, ?_⟩
    intro changed memory sameIndex sameOptions
    have index' : changed.index = m.index := sameIndex.trans index
    have options' : changed.options = m.options := sameOptions.trans (by rw [effect_eq])
    have accepted' :=
      (fault?_of_transfer (.inl isStore) (.inr isLoad) same index' options').trans accepted
    refine ⟨_, execute_eq_ok_iff.2 ⟨accepted', rfl⟩, ?_⟩
    intro r moved
    exact v_load_after_store isStore isLoad same memory index' moved
  · intro m' done
    obtain ⟨accepted, rfl⟩ := execute_eq_ok_iff.1 done
    have index := index_effect_of_transfer (m := m) (.inr (.inl isLoad))
    have options : (m.effect load).options = m.options := by rw [effect_eq]
    have accepted' :=
      (fault?_of_transfer (.inr isLoad) (.inl isStore) same.symm index options).trans accepted
    exact ⟨v_effect_of_load isLoad, index, _, execute_eq_ok_iff.2 ⟨accepted', rfl⟩,
      byteAt_store_after_load isStore isLoad same⟩
  · intro m' done digit
    obtain ⟨_, rfl⟩ := execute_eq_ok_iff.1 done
    obtain ⟨decimals, sum⟩ := decimalDigits_sound (m.v decimal.x)
    have written {j : Nat} (inside : j < 3) := getElem?_decimalDigits (m := m) isDecimal inside
    refine ⟨?_, ?_, ?_⟩
    · intro j inside
      exact decimals _ (List.mem_of_getElem? (written inside))
    · have hundreds := Option.some.inj (written (j := 0) (by decide))
      have tens := Option.some.inj (written (j := 1) (by decide))
      have ones := Option.some.inj (written (j := 2) (by decide))
      simp only [digit, ← hundreds, ← tens, ← ones]
      exact sum
    · intro a beyond
      rw [byteAt_effect_of_storeDecimal isDecimal, List.getElem?_eq_none beyond, Option.getD_none]

/-- Four registers stored over the end of memory, overwritten and loaded again: the last two of them
went to the first addresses, and the byte behind them stays. The digits of the last one go there as
well. -/
theorem stored_over_end :
    let m : Machine :=
      { (fresh ⟨.bit, false, true⟩ false (.cycle 0 [])).setV 3 254 with index := 0xFFE }
    (∃ m', m.execute ⟨.store, 0xF355⟩ = .ok m' ∧ m'.byteAt 1 = 254 ∧ m'.byteAt 2 = m.byteAt 2 ∧
      ∃ m'', ({ m' with registers := Vector.replicate _ 9 }).execute ⟨.load, 0xF365⟩ = .ok m'' ∧
      m''.v 3 = 254) ∧
    (∃ m', m.execute ⟨.load, 0xF365⟩ = .ok m' ∧ m'.v 3 = 0x90) ∧
    ∃ m', m.execute ⟨.storeDecimal, 0xF333⟩ = .ok m' ∧ (m'.byteAt 0).toNat ≤ 9 ∧
    m'.byteAt 1 = m.byteAt 1 := by
  intro m
  have isStore : (⟨.store, 0xF355⟩ : Instruction).op = .store := rfl
  have isLoad : (⟨.load, 0xF365⟩ : Instruction).op = .load := rfl
  have isDecimal : (⟨.storeDecimal, 0xF333⟩ : Instruction).op = .storeDecimal := rfl
  obtain ⟨done, stored, loaded, digits⟩ := stores_and_loads m isStore isLoad (by decide) isDecimal
  obtain ⟨⟨m₁, store⟩, ⟨m₂, load⟩, m₃, decimal⟩ := done rfl
  refine ⟨⟨m₁, store, ?_, ?_, ?_⟩, ⟨m₂, load, ?_⟩, m₃, decimal, ?_, ?_⟩
  · rw [(stored m₁ store).1]
    decide +kernel
  · rw [(stored m₁ store).1]
    decide +kernel
  · obtain ⟨m'', again, back⟩ :=
      (stored m₁ store).2.2 { m₁ with registers := Vector.replicate _ 9 } rfl rfl rfl
    refine ⟨m'', again, ?_⟩
    rw [back 3 (by decide)]
    decide +kernel
  · rw [(loaded m₂ load).1]
    decide +kernel
  · have first : BitVec.ofNat 12 (m.index.toNat + 2) = 0 := by decide +kernel
    rw [← first]
    exact (digits m₃ decimal).1 2 (by decide)
  · exact (digits m₃ decimal).2.2 1 (by decide +kernel)

end Chip8.Machine
