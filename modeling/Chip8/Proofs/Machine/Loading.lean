import Mathlib.Data.List.Forall2
import Chip8.Proofs.Machine.Frame
import Chip8.Proofs.Machine.History

/-!
# Loading is all or nothing

What becomes of a payload is settled by the elements that it holds. The first one that is no byte is
the error, whatever the size; then a size that is too large is; otherwise the bytes take the place
of as many bytes of memory (`toList_writeFrom`) and nothing else changes but the log (`LoadedWith`).
A payload that is refused leaves no trace at all: `load_all_or_nothing`.
-/

namespace Chip8

/-- A value stands for a byte: it is that integer. -/
def Value.IsByte (v : Value) (b : Byte) : Prop := v.toInt? = some (b.toNat : Int)

/-- A value stands for one byte at most. -/
lemma Value.IsByte.unique {v : Value} {b b' : Byte} (first : v.IsByte b) (second : v.IsByte b') :
    b = b' := by
  apply BitVec.eq_of_toNat_eq
  apply Int.ofNat_inj.mp
  exact Option.some_inj.mp (first.symm.trans second)

namespace Payload

/-- Why a value stands for no byte. -/
inductive Misfit : Value → PayloadError → Prop where
  | notInteger {v} :
    v.toInt? = none →
    Misfit v (.notInteger v.typeName)
  | notByte {v n} :
    v.toInt? = some n →
    n < 0 ∨ 255 < n →
    Misfit v .notByte

/-- What a payload holds, if it is bytes or a list. -/
inductive Holds : Payload → List Value → Prop where
  | bytes {data : List Byte} :
    Holds (.bytes data) (data.map fun b => .int b.toNat)
  | list {items} :
    Holds (.value (.list items)) items

variable {v : Value} {b : Byte} {e : PayloadError} {payload : Payload} {items : List Value}
  {data : List Byte}

/-- A value that stands for a byte is read as this byte. -/
lemma byteOf_of_isByte (fits : v.IsByte b) : byteOf v = .ok b := by
  have bound : b.toNat < 256 := b.isLt
  have same : BitVec.ofInt 8 b.toNat = b := by
    apply BitVec.eq_of_toNat_eq
    rw [BitVec.toNat_ofInt]
    omega
  rw [byteOf, fits]
  simp only
  rw [if_pos (by omega), same]

/-- A value that stands for no byte is refused for what is wrong with it. -/
lemma byteOf_of_misfit (misfit : Misfit v e) : byteOf v = .error e := by
  cases misfit with
  | notInteger none => rw [byteOf, none]
  | notByte integer outside =>
    rw [byteOf, integer]
    exact if_neg (by omega)

/-- Values that all stand for bytes are read as these bytes. -/
lemma bytesOf_of_forall₂ (fit : List.Forall₂ Value.IsByte items data) :
    bytesOf items = .ok data := by
  induction fit with
  | nil => rfl
  | cons first _ ih =>
    rw [bytesOf, byteOf_of_isByte first, ih]
    rfl

/-- The first element that is no byte is the error, whatever comes behind it. -/
lemma bytesOf_of_misfit {before after : List Value} (fit : ∀ u ∈ before, ∃ b, u.IsByte b)
    (misfit : Misfit v e) :
    bytesOf (before ++ v :: after) = .error e := by
  induction before with
  | nil =>
    rw [List.nil_append, bytesOf, byteOf_of_misfit misfit]
    rfl
  | cons u before ih =>
    obtain ⟨b, first⟩ := fit u (.head _)
    rw [List.cons_append, bytesOf, byteOf_of_isByte first,
      ih fun w member => fit w (.tail _ member)]
    rfl

/-- A payload of values is read value by value. -/
lemma toRom_of_holds (holds : payload.Holds items) : payload.toRom = (bytesOf items).map .data := by
  cases holds with
  | list => rfl
  | @bytes data =>
    have all : List.Forall₂ Value.IsByte (data.map fun b => .int b.toNat) data := by
      rw [List.forall₂_map_left_iff, List.forall₂_same]
      exact fun _ _ => rfl
    rw [bytesOf_of_forall₂ all]
    rfl

/-- A value that stands for no byte does so for a reason. -/
lemma exists_misfit (odd : ∀ b, ¬ v.IsByte b) : ∃ e, Misfit v e := by
  cases integer : v.toInt? with
  | none => exact ⟨_, .notInteger integer⟩
  | some n =>
    refine ⟨_, .notByte integer ?_⟩
    by_contra inside
    apply odd (BitVec.ofInt 8 n)
    rw [Value.IsByte, integer, BitVec.toNat_ofInt]
    congr 1
    omega

/-- Among elements one of which is no byte, one is the first. -/
lemma exists_first_misfit (odd : ∃ u ∈ items, ∀ b, ¬ u.IsByte b) :
    ∃ before v after e, items = before ++ v :: after ∧ (∀ u ∈ before, ∃ b, u.IsByte b) ∧
    Misfit v e := by
  induction items with
  | nil =>
    obtain ⟨_, member, _⟩ := odd
    cases member
  | cons w items ih =>
    by_cases first : ∃ b, w.IsByte b
    · have later : ∃ u ∈ items, ∀ b, ¬ u.IsByte b := by
        obtain ⟨u, member, odd⟩ := odd
        cases member with
        | head =>
          obtain ⟨b, fits⟩ := first
          exact absurd fits (odd b)
        | tail _ member => exact ⟨u, member, odd⟩
      obtain ⟨before, v, after, e, parts, fit, misfit⟩ := ih later
      refine ⟨w :: before, v, after, e, congrArg (w :: ·) parts, ?_, misfit⟩
      exact List.forall_mem_cons.mpr ⟨first, fit⟩
    · obtain ⟨e, misfit⟩ := exists_misfit (not_exists.mp first)
      exact ⟨[], w, items, e, rfl, List.forall_mem_nil _, misfit⟩

/-- If each of the values stands for a byte, there are bytes for all of them. -/
lemma exists_forall₂ (fit : ∀ u ∈ items, ∃ b, u.IsByte b) :
    ∃ data, List.Forall₂ Value.IsByte items data := by
  induction items with
  | nil => exact ⟨[], .nil⟩
  | cons u items ih =>
    obtain ⟨b, first⟩ := fit u (.head _)
    obtain ⟨data, rest⟩ := ih fun w member => fit w (.tail _ member)
    exact ⟨b :: data, .cons first rest⟩

end Payload

namespace Machine

open Payload

variable {m : Machine} {payload : Payload} {items : List Value} {data : List Byte}

/-- Bytes that are written below the end of memory take the place of as many bytes there. -/
lemma toList_writeFrom (m : Machine) {start : Nat}
    (fits : start + data.length ≤ Layout.memorySize) :
    (m.writeFrom start data).memory.toList =
      m.memory.toList.take start ++ data ++ m.memory.toList.drop (start + data.length) := by
  induction data generalizing m start with
  | nil => simp [writeFrom]
  | cons b data ih =>
    have bound : start + (data.length + 1) ≤ 4096 := fits
    have inside : start < m.memory.toList.length := by
      rw [Vector.length_toList]
      exact Nat.lt_of_lt_of_le (Nat.lt_add_of_pos_right (Nat.succ_pos _)) bound
    have rest : start + 1 + data.length ≤ Layout.memorySize := by
      rw [Nat.add_assoc, Nat.add_comm 1]
      exact bound
    have place : (BitVec.ofNat 12 start).toNat = start := by
      rw [BitVec.toNat_ofNat]
      omega
    have first : (m.setByte (BitVec.ofNat 12 start) b).memory.toList =
        m.memory.toList.set start b := by
      rw [setByte]
      simp only [place]
      exact Vector.toList_set ..
    calc ((m.setByte (BitVec.ofNat 12 start) b).writeFrom (start + 1) data).memory.toList
        = (m.memory.toList.set start b).take (start + 1) ++ data ++
            (m.memory.toList.set start b).drop (start + 1 + data.length) := by rw [ih _ rest, first]
      _ = (m.memory.toList.take start ++ [b]) ++ data ++
          m.memory.toList.drop (start + 1 + data.length) := by
          rw [List.take_add_one, List.take_set_of_le (Nat.le_refl _), List.getElem?_set_self inside,
            List.drop_set_of_lt (by omega)]
          rfl
      _ = m.memory.toList.take start ++ b :: data ++
          m.memory.toList.drop (start + (b :: data).length) := by
          rw [List.append_assoc _ [b] data, List.length_cons, Nat.add_assoc, Nat.add_comm 1]
          rfl

/-! ## Outcomes -/

/-- A machine with bytes copied to the place where programs begin, and nothing else changed but the
log. -/
structure LoadedWith (m : Machine) (data : List Byte) (m' : Machine) : Prop where
  inside : ∀ j (below : j < data.length), m'.byteAt (BitVec.ofNat 12 (0x200 + j)) = data[j]
  outside : ∀ a : Address, a.toNat < 0x200 ∨ 0x200 + data.length ≤ a.toNat →
    m'.byteAt a = m.byteAt a
  /-- Memory is what a slice assignment makes of it, and as large as before. -/
  spliced : m'.memory.toList = m.memory.toList.take 0x200 ++ data ++
    m.memory.toList.drop (0x200 + data.length)
  size : m'.memory.toList.length = 4096
  rest : m' = { m with
    memory := m'.memory
    log := if m.logging then .loaded data.length :: m.log else m.log }

/-- A machine with a program written to it, and its size logged, is loaded with the program. -/
lemma loadedWith_writeFrom (m : Machine) (fits : data.length ≤ 3584) :
    m.LoadedWith data ((m.writeFrom Layout.programStart data).note (.loaded data.length)) := by
  rw [note_eq]
  have room : Layout.programStart + data.length ≤ Layout.memorySize :=
    Nat.add_le_add_left fits 0x200
  refine ⟨?inside, ?outside, m.toList_writeFrom room, Vector.length_toList, ?rest⟩
  case inside =>
    intro j below
    exact byteAt_writeFrom (Nat.le_trans fits (by decide)) below
  case outside =>
    intro a outside
    apply byteAt_writeFrom_of_forall_ne
    intro j below same
    have place : a.toNat = (0x200 + j) % 4096 := by
      rw [same, BitVec.toNat_ofNat]
    omega
  case rest =>
    rw [writeFrom_eq]
    rfl

/-- A payload with an element that is no byte is refused for the first such element. -/
lemma perform_load_of_misfit {before after : List Value} {v : Value} {e : PayloadError}
    (m : Machine) (holds : payload.Holds (before ++ v :: after))
    (fit : ∀ u ∈ before, ∃ b, u.IsByte b) (misfit : Misfit v e) :
    m.perform (.load payload) = (m, .refused (.payload e)) := by
  have refused : payload.toRom = .error e := by
    rw [toRom_of_holds holds, bytesOf_of_misfit fit misfit]
    rfl
  rw [perform, load, refused]

/-- A payload that is read is loaded if it fits, and refused otherwise. -/
lemma perform_load_of_data (m : Machine) (read : payload.toRom = .ok (.data data)) :
    m.perform (.load payload) =
      if 3584 < data.length then (m, .refused (.fault (.romTooLarge data.length 3584)))
      else ((m.writeFrom Layout.programStart data).note (.loaded data.length), .done) := by
  by_cases long : 3584 < data.length
  · have refused : m.loadRom (.data data) = .error (.romTooLarge data.length 3584) := if_pos long
    rw [perform, load, read, if_pos long]
    simp only [refused]
    rfl
  · have done : m.loadRom (.data data) =
        .ok ((m.writeFrom Layout.programStart data).note (.loaded data.length)) :=
      if_neg long
    rw [perform, load, read, if_neg long]
    simp only [done]
    rfl

/-- The first element of a payload that is no byte is the error, whatever the size; else a size over
the limit is, and a refused payload changes nothing. Otherwise the bytes are copied to their place
and nothing else changes but the log. -/
theorem load_all_or_nothing (holds : payload.Holds items) (m : Machine) :
    ((∃ u ∈ items, ∀ b, ¬ u.IsByte b) →
      ∃ e, m.perform (.load payload) = (m, .refused (.payload e)) ∧
        ∀ before v after, items = before ++ v :: after → (∀ u ∈ before, ∃ b, u.IsByte b) →
          (∀ b, ¬ v.IsByte b) → Misfit v e) ∧
    ((∀ u ∈ items, ∃ b, u.IsByte b) →
      (3584 < items.length →
        m.perform (.load payload) = (m, .refused (.fault (.romTooLarge items.length 3584)))) ∧
      (items.length ≤ 3584 →
        ∃ data m', List.Forall₂ Value.IsByte items data ∧ m.LoadedWith data m' ∧
          m.perform (.load payload) = (m', .done))) := by
  refine ⟨?misfit, ?bytes⟩
  case misfit =>
    intro odd
    obtain ⟨before, v, after, e, rfl, fit, misfit⟩ := exists_first_misfit odd
    have refused := perform_load_of_misfit m holds fit misfit
    refine ⟨e, refused, ?_⟩
    intro before v after parts fit odd
    -- Wherever else the list is cut at a value that is no byte, the one answer of the operation is
    -- the error of that value.
    obtain ⟨e', misfit⟩ := exists_misfit odd
    rw [parts] at holds
    rw [perform_load_of_misfit m holds fit misfit] at refused
    cases refused
    exact misfit
  case bytes =>
    intro fit
    obtain ⟨data, all⟩ := exists_forall₂ fit
    have read : payload.toRom = .ok (.data data) := by
      rw [toRom_of_holds holds, bytesOf_of_forall₂ all]
      rfl
    rw [perform_load_of_data m read, all.length_eq]
    refine ⟨fun long => if_pos long, fun fits => ?_⟩
    exact ⟨data, _, all, m.loadedWith_writeFrom fits, if_neg (Nat.not_lt_of_le fits)⟩

/-- A text behind more bytes than fit is refused for what it is, and the bytes alone for their
number. As many bytes as fit reach up to the last address. -/
theorem last_address_loaded :
    let m := fresh ⟨.bit, true, true⟩ true (.cycle 0 [])
    m.perform (.load (.value (.list (List.replicate 3585 (.int 0) ++ [.text "7", .int 256])))) =
      (m, .refused (.payload (.notInteger "str"))) ∧
    m.perform (.load (.value (.list (List.replicate 3585 (.int 0))))) =
      (m, .refused (.fault (.romTooLarge 3585 3584))) ∧
    ∃ m', m.perform (.load (.value (.list (List.replicate 3584 (.int 0xFF))))) = (m', .done) ∧
      m'.byteAt 0xFFF = 0xFF := by
  intro m
  have fit (count : Nat) {n : Int} {b : Byte} (fits : (Value.int n).IsByte b) :
      ∀ u ∈ List.replicate count (Value.int n), ∃ b, u.IsByte b := by
    intro u member
    rw [List.eq_of_mem_replicate member]
    exact ⟨b, fits⟩
  have zeros := fit 3585 (n := 0) (b := 0) rfl
  refine ⟨?odd, ?long, ?full⟩
  case odd =>
    have odd : ∀ b, ¬ (Value.text "7").IsByte b := nofun
    obtain ⟨e, refused, first⟩ :=
      (load_all_or_nothing .list m).1 ⟨_, List.mem_append_right _ (.head _), odd⟩
    cases first _ _ _ rfl zeros odd with
    | notInteger => exact refused
    | notByte integer => cases integer
  case long =>
    have size : (List.replicate 3585 (Value.int 0)).length = 3585 := List.length_replicate
    have refused := ((load_all_or_nothing .list m).2 zeros).1 (by omega)
    rw [size] at refused
    exact refused
  case full =>
    have size : (List.replicate 3584 (Value.int 0xFF)).length = 3584 := List.length_replicate
    obtain ⟨data, m', all, loaded, done⟩ :=
      ((load_all_or_nothing .list m).2 (fit 3584 (n := 0xFF) (b := 0xFF) rfl)).2 (Nat.le_of_eq size)
    have below : 3583 < data.length := by
      rw [← all.length_eq, size]
      decide
    have last : (Value.int 0xFF).IsByte data[3583] := by
      have last := all.get (i := 3583) (by omega) below
      rw [List.get_eq_getElem, List.getElem_replicate] at last
      exact last
    exact ⟨m', done, (loaded.inside 3583 below).trans (last.unique rfl)⟩

end Machine

end Chip8
