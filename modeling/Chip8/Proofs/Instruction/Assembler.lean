import Chip8.Proofs.Instruction.Form
import Chip8.Proofs.Instruction.Table
import Chip8.Proofs.Machine.Addressing

/-!
# The assembler

Assembly text read back. A line is tried in every form, in the order of the table of instructions;
forms are so far apart that what one of them writes is read by none of those before it
(`apart_total`). So the assembler gives back the word of an instruction, without the bits that its
text does not show (`assemble?_mnemonic`), and texts are as different as words are:
`mnemonics_faithful`.
-/

namespace Chip8

/-! ## Reading a line in a form -/

namespace Slot

/-- Whether nothing that stands in the slot `t` can be read in the slot `s`, for slots of registers
and of names. -/
def apart (s t : Slot) : Bool :=
  match t with
  | x | y => (List.range 16).all fun r => (s.number? ['V', Hex.upperDigit r]).isNone
  | named name => (s.number? name.toList).isNone
  | _ => false

/-- The text of an operand is not read as that of a slot of another kind. -/
lemma number?_of_apart {s t : Slot} (apart : s.apart t = true) (i : Instruction) :
    s.number? (t.operand i).text.toList = none := by
  have register (r : Nibble) (each : s.apart .x = true) :
      s.number? (Operand.register r).text.toList = none := by
    have none := List.all_eq_true.1 each r.toNat (List.mem_range.2 r.isLt)
    rw [toList_text_register]
    exact Option.isNone_iff_eq_none.1 none
  cases t with
  | x => exact register i.x apart
  | y => exact register i.y apart
  | named name => exact Option.isNone_iff_eq_none.1 apart
  | byte | address | height | word => cases apart

end Slot

namespace Form

/-- The fields of a word that stand in slots. -/
def readSlots? : List Slot → List (List Char) → Option Word
  | [], [] => some 0
  | s :: slots, text :: texts =>
    (s.number? text).bind fun n =>
      (readSlots? slots texts).map (BitVec.ofNat 16 n <<< s.start ||| ·)
  | _, _ => none

/-- The fields of a word that a line of the form shows. -/
def read? (form : Form) : List (List Char) → Option Word
  | name :: texts => if name = form.name.toList then readSlots? form.slots texts else none
  | [] => none

/-- The bits that a line of the form shows. -/
def mask (form : Form) : Word := form.slots.foldr (fun s others => s.mask ||| others) 0

/-- Whether no line of the form `g` can be read in the form `f`: another name, another number of
operands, or an operand that cannot be read. -/
def apart (f g : Form) : Bool :=
  f.name != g.name || f.slots.length != g.slots.length ||
    (f.slots.zip g.slots).any fun (s, t) => s.apart t

/-- The texts of the operands of an instruction are read back to its bits in their slots. -/
lemma readSlots?_operands (slots : List Slot) (i : Instruction) :
    readSlots? slots (slots.map fun s => (s.operand i).text.toList) =
      some (i.opcode &&& slots.foldr (fun s others => s.mask ||| others) 0) := by
  induction slots with
  | nil => simp [readSlots?]
  | cons s slots ih =>
    rw [List.map_cons, readSlots?, s.number?_text, ih, List.foldr_cons, BitVec.and_or_distrib_left,
      ← s.shiftLeft_number]
    rfl

/-- Texts are not read if the first of them is not or the others are not. -/
lemma readSlots?_cons_eq_none {s : Slot} {slots : List Slot} {text : List Char}
    {texts : List (List Char)} (unread : s.number? text = none ∨ readSlots? slots texts = none) :
    readSlots? (s :: slots) (text :: texts) = none := by
  rw [readSlots?, Option.bind_eq_none_iff]
  intro n read
  rcases unread with here | behind
  · cases here.symm.trans read
  · rw [behind, Option.map_none]

/-- Texts are not read by slots of another number or with a slot of another kind among them. -/
lemma readSlots?_eq_none {slots slots' : List Slot} (i : Instruction)
    (apart : slots.length ≠ slots'.length ∨ ∃ st ∈ slots.zip slots', st.1.apart st.2 = true) :
    readSlots? slots (slots'.map fun s => (s.operand i).text.toList) = none := by
  induction slots generalizing slots' with
  | nil =>
    cases slots' with
    | nil => simp at apart
    | cons t slots' => rfl
  | cons s slots ih =>
    cases slots' with
    | nil => rfl
    | cons t slots' =>
      apply readSlots?_cons_eq_none
      -- Either the first slots are apart, or what stands behind them cannot be read.
      rcases apart with longer | ⟨st, listed, apart⟩
      · exact .inr (ih (.inl fun same => longer (congrArg (· + 1) same)))
      · rcases List.mem_cons.1 listed with rfl | listed
        · exact .inl (Slot.number?_of_apart apart i)
        · exact .inr (ih (.inr ⟨st, listed, apart⟩))

/-- An instruction is read in its own form. -/
lemma read?_mnemonic (i : Instruction) :
    i.op.form.read? (fields i.mnemonic.toList) = some (i.opcode &&& i.op.form.mask) := by
  rw [fields_mnemonic, read?, if_pos rfl]
  exact readSlots?_operands i.op.form.slots i

/-- It is not read in a form that is apart. -/
lemma read?_of_apart {form : Form} {i : Instruction} (apart : form.apart i.op.form = true) :
    form.read? (fields i.mnemonic.toList) = none := by
  rw [fields_mnemonic, read?]
  split
  · next same =>
    rw [Form.apart, String.toList_inj.1 same] at apart
    apply readSlots?_eq_none
    simp only [bne_self_eq_false, Bool.false_or, Bool.or_eq_true, bne_iff_ne,
      List.any_eq_true] at apart
    exact apart
  · rfl

end Form

/-! ## Assembling -/

/-- The table of instructions, and behind it the pattern of all other words. -/
def Pattern.total : List Pattern := table ++ [⟨0, 0, .unknown⟩]

/-- The word of an assembly line: the bits of its operation and those of its operands. -/
def assemble? (line : String) : Option Word :=
  Pattern.total.findSome? fun p => (p.op.form.read? (fields line.toList)).map (p.bits ||| ·)

/-- The bits that the text of an instruction shows: all of them, but for the second register of a
shift. -/
def Op.shownBits : Op → Word
  | shr | shl => 0xFF0F
  | _ => 0xFFFF

/-- The word of an instruction without the bits that its text does not show. -/
def Instruction.shown (i : Instruction) : Word := i.opcode &&& i.op.shownBits

/-- The text of an instruction shows all of its bits, unless it is a shift. -/
lemma Op.shownBits_of_not_shift {op : Op} (noShift : ¬ (op = .shr ∨ op = .shl)) :
    op.shownBits = 0xFFFF := by
  cases op with
  | shr | shl => simp at noShift
  | _ => rfl

namespace Pattern

/-- Forms are apart from those before them in the table. -/
lemma apart_total : total.Pairwise fun p q => p.op.form.apart q.op.form = true := by decide +kernel

/-- A pattern and the form of its operation cover the bits that are shown. -/
lemma mask_total : ∀ p ∈ total, p.mask ||| p.op.form.mask = p.op.shownBits := by decide +kernel

/-- An operation that leaves out bits is told by bits that it shows. -/
lemma mask_of_hidden : ∀ p ∈ total, p.op.shownBits ≠ 0xFFFF →
    p ∈ table ∧ p.op ≠ .sys ∧ p.op.shownBits &&& p.mask = p.mask := by decide +kernel

/-- An instruction is decoded by a pattern that accepts its word. -/
lemma exists_accepts (w : Word) :
    ∃ p ∈ total, p.accepts w = true ∧ (Instruction.decode w).op = p.op := by
  rw [Instruction.decode, Instruction.decodeWith]
  cases found : table.find? (·.accepts w) with
  | none => exact ⟨⟨0, 0, .unknown⟩, by decide, by simp [accepts], rfl⟩
  | some p =>
    have accepts : p.accepts w = true := List.find?_some (p := fun p : Pattern => p.accepts w) found
    exact ⟨p, List.mem_append_left _ (List.mem_of_find?_eq_some found), accepts, rfl⟩

end Pattern

namespace Instruction

variable {i j : Instruction} {w w' : Word}

/-- Assembling is the inverse of writing, for all that is written. -/
lemma assemble?_mnemonic (w : Word) : assemble? (decode w).mnemonic = some (decode w).shown := by
  obtain ⟨p, inside, accepts, op⟩ := Pattern.exists_accepts w
  obtain ⟨before, behind, split⟩ := List.append_of_mem inside
  have apart := Pattern.apart_total
  rw [split, List.pairwise_append] at apart
  rw [assemble?, List.findSome?_eq_some_iff]
  refine ⟨before, p, behind, split, ?_, ?_⟩
  · -- The bits of the pattern and those of the operands are parts of the word, and together all
    -- that is shown.
    have bits : w &&& p.mask = p.bits := beq_iff_eq.1 accepts
    rw [← op, Form.read?_mnemonic, Option.map_some, opcode_decode, op, ← bits,
      ← BitVec.and_or_distrib_left, Pattern.mask_total p inside, shown, op]
    rfl
  · intro q earlier
    have far := apart.2.2 q earlier p (.head _)
    rw [← op] at far
    rw [Form.read?_of_apart far, Option.map_none]

/-! ## Words and their texts -/

/-- The bits that are shown tell the first register. -/
lemma x_shown (i : Instruction) : i.shown.extractLsb' 8 4 = i.x := by
  have kept : i.op.shownBits.extractLsb' 8 4 = BitVec.allOnes 4 := by
    cases i.op with
    | _ => rfl
  rw [shown, BitVec.extractLsb'_and, kept, BitVec.and_allOnes]
  rfl

/-- A word whose bits are all shown is the one that its text shows. -/
lemma shown_of_whole (whole : (decode w).op.shownBits = 0xFFFF) : (decode w).shown = w := by
  rw [shown, whole]
  exact BitVec.and_allOnes

/-- The bits that are shown tell the operation. -/
lemma op_decode_shown (w : Word) : (decode (decode w).shown).op = (decode w).op := by
  obtain ⟨p, inside, accepts, op⟩ := Pattern.exists_accepts w
  by_cases whole : p.op.shownBits = 0xFFFF
  · rw [← op] at whole
    rw [shown_of_whole whole]
  · -- The pattern does not look at the bits that are left out.
    obtain ⟨listed, notSys, kept⟩ := Pattern.mask_of_hidden p inside whole
    have accepts' : p.accepts (decode w).shown = true := by
      rw [Pattern.accepts, shown, op, BitVec.and_assoc, kept]
      exact accepts
    rw [op, op_decode_iff listed notSys]
    exact accepts'

/-- Two words have the same text if they are the same, or the same but for the second register of a
shift. -/
lemma mnemonic_decode_eq_iff :
    (decode w).mnemonic = (decode w').mnemonic ↔
      w = w' ∨ ((decode w).op = .shr ∨ (decode w).op = .shl) ∧ (decode w').op = (decode w).op ∧
        (decode w').x = (decode w).x := by
  constructor
  · intro same
    have shown : (decode w).shown = (decode w').shown := by
      have assembled := assemble?_mnemonic w
      rw [same, assemble?_mnemonic] at assembled
      exact (Option.some.inj assembled).symm
    have op : (decode w').op = (decode w).op := by
      rw [← op_decode_shown w, ← op_decode_shown w', shown]
    have x : (decode w').x = (decode w).x := by
      rw [← x_shown (decode w), ← x_shown (decode w'), shown]
    by_cases shift : (decode w).op = .shr ∨ (decode w).op = .shl
    · exact .inr ⟨shift, op, x⟩
    · have whole : (decode w').op.shownBits = 0xFFFF := by
        rw [op]
        exact Op.shownBits_of_not_shift shift
      rw [shown_of_whole (Op.shownBits_of_not_shift shift), shown_of_whole whole] at shown
      exact .inl shown
  · rintro (rfl | ⟨shift, op, x⟩)
    · rfl
    · rcases shift with shift | shift
      · simp only [mnemonic, assembly, op, shift, x]
      · simp only [mnemonic, assembly, op, shift, x]

/-- Integers stand for the same word if their low sixteen bits are the same. -/
lemma ofInt_eq_ofInt_iff {w₁ w₂ : Int} :
    BitVec.ofInt 16 w₁ = BitVec.ofInt 16 w₂ ↔ w₁ % 65536 = w₂ % 65536 := by
  have low (w : Int) : (BitVec.ofInt 16 w).toNat = (w % 65536).toNat := BitVec.toNat_ofInt w
  constructor
  · intro same
    have places := congrArg BitVec.toNat same
    rw [low, low] at places
    omega
  · intro same
    apply BitVec.eq_of_toNat_eq
    rw [low, low, same]

/-- Shifts ignore what their text leaves out. -/
lemma execute_of_shift {i j : Instruction} (shift : i.op = .shr ∨ i.op = .shl) (op : j.op = i.op)
    (x : j.x = i.x) (m : Machine) : m.execute j = m.execute i := by
  rcases shift with shift | shift
  · simp only [Machine.execute, Machine.fault?, Machine.effect, spanLength, op, shift, x]
  · simp only [Machine.execute, Machine.fault?, Machine.effect, spanLength, op, shift, x]

/-- The text of an instruction is faithful. Two integers have the same text exactly if their low
sixteen bits are the same, or if both are the same shift of the same register. The assembler gives
back the word, without the second register of a shift. And instructions of the same text do the same
to every machine, and are refused for the same reason. -/
theorem mnemonics_faithful (w₁ w₂ : Int) :
    ((ofInt w₁).mnemonic = (ofInt w₂).mnemonic ↔
      w₁ % 65536 = w₂ % 65536 ∨
      ((ofInt w₁).op = .shr ∧ (ofInt w₂).op = .shr ∨ (ofInt w₁).op = .shl ∧ (ofInt w₂).op = .shl) ∧
        (ofInt w₁).x = (ofInt w₂).x) ∧
    assemble? (ofInt w₁).mnemonic = some (ofInt w₁).shown ∧
    ((ofInt w₁).mnemonic = (ofInt w₂).mnemonic → ∀ m : Machine, m.execute (ofInt w₁) =
      m.execute (ofInt w₂)) := by
  refine ⟨?_, assemble?_mnemonic _, ?_⟩
  · rw [ofInt, ofInt, mnemonic_decode_eq_iff, ofInt_eq_ofInt_iff]
    apply or_congr Iff.rfl
    constructor
    · rintro ⟨shr | shl, op, x⟩
      · exact ⟨.inl ⟨shr, op.trans shr⟩, x.symm⟩
      · exact ⟨.inr ⟨shl, op.trans shl⟩, x.symm⟩
    · rintro ⟨⟨shr, shr'⟩ | ⟨shl, shl'⟩, x⟩
      · exact ⟨.inl shr, shr'.trans shr.symm, x.symm⟩
      · exact ⟨.inr shl, shl'.trans shl.symm, x.symm⟩
  · intro same m
    rcases mnemonic_decode_eq_iff.1 same with same | ⟨shift, op, x⟩
    · rw [ofInt, ofInt, same]
    · exact (execute_of_shift shift op x m).symm

/-- Two shifts, one of them given by a negative number, that differ in the register they ignore. -/
theorem shifts_alike :
    (ofInt 0x8126).mnemonic = (ofInt (-0x7EBA)).mnemonic ∧ ofInt 0x8126 ≠ ofInt (-0x7EBA) ∧
      assemble? (ofInt 0x8126).mnemonic = some 0x8106 ∧
      ∀ m : Machine, m.execute (ofInt 0x8126) = m.execute (ofInt (-0x7EBA)) := by
  obtain ⟨texts, assembled, executed⟩ := mnemonics_faithful 0x8126 (-0x7EBA)
  have same : (ofInt 0x8126).mnemonic = (ofInt (-0x7EBA)).mnemonic := texts.2 (.inr (by decide))
  exact ⟨same, by decide, assembled, executed same⟩

end Instruction

end Chip8
