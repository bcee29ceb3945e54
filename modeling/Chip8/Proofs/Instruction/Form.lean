import Mathlib.Tactic.Lemma
import Chip8.Instruction.Mnemonic
import Chip8.Proofs.Text.Hex

/-!
# Forms of assembly lines

The assembly line of an instruction depends on its operation for the form, and on its word for what
stands in the slots of the form (`assembly_eq`). Each slot shows a field of the word, and the field
can be read from what stands there (`number?_text`). Blanks and commas stand between the fields of a
line and nowhere else, so the line can be taken apart again (`fields_text`).
-/

namespace Chip8

/-- A place for an operand in an assembly line. -/
inductive Slot where
  /-- The first register. -/
  | x
  /-- The second register. -/
  | y
  | byte
  | address
  | height
  | word
  /-- Always the same name. -/
  | named (name : String)
deriving DecidableEq

namespace Slot

/-- Where the field that a slot shows begins, counted from the lowest bit of the word. -/
def start : Slot → Nat
  | x => 8
  | y => 4
  | _ => 0

/-- How many bits the field has. -/
def size : Slot → Nat
  | x | y | height => 4
  | byte => 8
  | address => 12
  | word => 16
  | named _ => 0

/-- The field that a slot shows, as a number. -/
def number (s : Slot) (w : Word) : Nat := (w.extractLsb' s.start s.size).toNat

/-- The bits of the field. -/
def mask (s : Slot) : Word := (BitVec.allOnes s.size).zeroExtend 16 <<< s.start

/-- The operand that an instruction shows in a slot. -/
def operand (s : Slot) (i : Instruction) : Operand :=
  match s with
  | x => .register i.x
  | y => .register i.y
  | byte => .byte i.nn
  | address => .address i.nnn
  | height => .height i.n
  | word => .word i.opcode
  | named name => .named name

/-- The number that decimal digits stand for, the most significant first. -/
def decimal? (digits : List Char) : Option Nat :=
  digits.foldlM (fun n c => ((Hex.digitValue? c).filter (· < 10)).map (10 * n + ·)) 0

/-- The number of a register, from its name. -/
def registerNumber? : List Char → Option Nat
  | ['V', digit] => Hex.digitValue? digit
  | _ => none

/-- The number that a text stands for in a slot. -/
def number? (s : Slot) (text : List Char) : Option Nat :=
  match s with
  | x | y => registerNumber? text
  | byte | address | word => Hex.read? text
  | height => decimal? text
  | named name => if text = name.toList then some 0 else none

/-- The name of a register is a letter and a digit. -/
lemma toList_text_register (r : Nibble) :
    (Operand.register r).text.toList = ['V', Hex.upperDigit r.toNat] := by
  have digit : ∀ n < 16, (Hex.upper 1 n).toList = [Hex.upperDigit n] := by decide
  rw [Operand.text, String.toList_append, digit _ r.isLt]
  rfl

/-- The text of an operand is read back to its number. -/
lemma number?_text (s : Slot) (i : Instruction) :
    s.number? (s.operand i).text.toList = some (s.number i.opcode) := by
  have register (r : Nibble) : registerNumber? (Operand.register r).text.toList = some r.toNat := by
    rw [toList_text_register]
    exact Hex.digitValue?_upperDigit _ r.isLt
  cases s with
  | x => exact register i.x
  | y => exact register i.y
  | byte => exact (Hex.read?_upper 2 i.nn.toNat).2
  | address => exact (Hex.read?_upper 3 i.nnn.toNat).2
  | word =>
    have whole : number .word i.opcode = i.opcode.toNat :=
      congrArg BitVec.toNat BitVec.extractLsb'_eq_self
    rw [whole]
    exact (Hex.read?_upper 4 i.opcode.toNat).2
  | height =>
    have decimal : ∀ n : Nibble, decimal? (Operand.height n).text.toList = some n.toNat := by decide
    exact decimal i.n
  | named name =>
    have empty : number (.named name) i.opcode = 0 := BitVec.toNat_of_zero_length rfl _
    rw [number?, operand, Operand.text, if_pos rfl, empty]

/-- A field moved back to its place is the word under the mask. -/
lemma shiftLeft_number (s : Slot) (w : Word) :
    BitVec.ofNat 16 (s.number w) <<< s.start = w &&& s.mask := by
  -- Bit by bit. Below the field both are zero, and above it the mask is.
  apply BitVec.eq_of_getLsbD_eq
  intro j inside
  simp only [number, mask, BitVec.ofNat_toNat, BitVec.zeroExtend_eq_setWidth,
    BitVec.getLsbD_shiftLeft, BitVec.getLsbD_setWidth, BitVec.getLsbD_extractLsb',
    BitVec.getLsbD_and, BitVec.getLsbD_allOnes]
  by_cases below : j < s.start
  · simp [below]
  · have place : s.start + (j - s.start) = j := by omega
    have small : j - s.start < 16 := by omega
    simp [below, place, inside, small, Bool.and_comm]

end Slot

/-- How the assembly lines of an operation look. -/
structure Form where
  name : String
  slots : List Slot
deriving DecidableEq

/-- The name of an operation and the slots of its operands, in the order in which they are
written. -/
def Op.form : Op → Form
  | cls => ⟨"CLS", []⟩
  | ret => ⟨"RET", []⟩
  | sys => ⟨"SYS", [.address]⟩
  | jp => ⟨"JP", [.address]⟩
  | call => ⟨"CALL", [.address]⟩
  | skipEqByte => ⟨"SE", [.x, .byte]⟩
  | skipNeByte => ⟨"SNE", [.x, .byte]⟩
  | skipEq => ⟨"SE", [.x, .y]⟩
  | loadByte => ⟨"LD", [.x, .byte]⟩
  | addByte => ⟨"ADD", [.x, .byte]⟩
  | copy => ⟨"LD", [.x, .y]⟩
  | or => ⟨"OR", [.x, .y]⟩
  | and => ⟨"AND", [.x, .y]⟩
  | xor => ⟨"XOR", [.x, .y]⟩
  | add => ⟨"ADD", [.x, .y]⟩
  | sub => ⟨"SUB", [.x, .y]⟩
  | shr => ⟨"SHR", [.x]⟩
  | subn => ⟨"SUBN", [.x, .y]⟩
  | shl => ⟨"SHL", [.x]⟩
  | skipNe => ⟨"SNE", [.x, .y]⟩
  | loadIndex => ⟨"LD", [.named "I", .address]⟩
  | jpOffset => ⟨"JP", [.named "V0", .address]⟩
  | random => ⟨"RND", [.x, .byte]⟩
  | draw => ⟨"DRW", [.x, .y, .height]⟩
  | skipKey => ⟨"SKP", [.x]⟩
  | skipNoKey => ⟨"SKNP", [.x]⟩
  | readDelay => ⟨"LD", [.x, .named "DT"]⟩
  | waitKey => ⟨"LD", [.x, .named "K"]⟩
  | setDelay => ⟨"LD", [.named "DT", .x]⟩
  | setSound => ⟨"LD", [.named "ST", .x]⟩
  | addIndex => ⟨"ADD", [.named "I", .x]⟩
  | loadGlyph => ⟨"LD", [.named "F", .x]⟩
  | storeDecimal => ⟨"LD", [.named "B", .x]⟩
  | store => ⟨"LD", [.named "[I]", .x]⟩
  | load => ⟨"LD", [.x, .named "[I]"]⟩
  | unknown => ⟨"DW", [.word]⟩

/-- The assembly of an instruction fills in the form of its operation. -/
lemma assembly_eq (i : Instruction) :
    i.assembly = ⟨i.op.form.name, i.op.form.slots.map (·.operand i)⟩ := by
  obtain ⟨op, opcode⟩ := i
  cases op with
  | _ => rfl

/-! ## Fields of a line -/

/-- The name and the operands of a line, which are apart by blanks. Commas are passed over. -/
def fields (line : List Char) : List (List Char) := (line.filter (· != ',')).splitOn ' '

/-- A character that is part of a name or of an operand: neither a blank nor a comma, and no end of
a line. -/
def isInner (c : Char) : Bool := c != ' ' && c != ',' && c != '\n'

/-- Hexadecimal digits have no gap or separator among them. -/
lemma isInner_upper (width n : Nat) : (Hex.upper width n).toList.all isInner = true := by
  have digit : ∀ d < 16, isInner (Hex.upperDigit d) = true := by decide
  rw [List.all_eq_true]
  intro c written
  obtain ⟨d, small, rfl⟩ := Hex.mem_upper written
  exact digit d small

/-- A character of another kind is not among those of a name or an operand. -/
lemma not_mem_of_isInner {text : List Char} {c : Char} (inner : text.all isInner = true)
    (outer : isInner c = false) :
    c ∉ text := by
  intro member
  have each := List.all_eq_true.1 inner c member
  rw [outer] at each
  cases each

/-- Whether the names of a form are made of inner characters. -/
def Form.named (form : Form) : Bool :=
  form.name.toList.all isInner && form.slots.all fun
    | .named name => name.toList.all isInner
    | _ => true

/-- Every operation has a name. -/
lemma named_form (op : Op) : op.form.named = true := by
  cases op with
  | _ => decide

/-- The text of an operand has no gap or separator in it. -/
lemma isInner_text {op : Op} {s : Slot} (i : Instruction) (listed : s ∈ op.form.slots) :
    (s.operand i).text.toList.all isInner = true := by
  have named := named_form op
  rw [Form.named, Bool.and_eq_true] at named
  have here := List.all_eq_true.1 named.2 s listed
  have register (r : Nibble) : (Operand.register r).text.toList.all isInner = true := by
    rw [Operand.text, String.toList_append, List.all_append, isInner_upper 1 r.toNat]
    rfl
  cases s with
  | x => exact register i.x
  | y => exact register i.y
  | byte | address | word => exact isInner_upper _ _
  | height =>
    have decimal : ∀ n : Nibble, (Operand.height n).text.toList.all isInner = true := by decide
    exact decimal i.n
  | named name => exact here

/-- A text without commas is not changed by leaving out the commas. -/
lemma filter_inner {text : List Char} (inner : text.all isInner = true) :
    text.filter (· != ',') = text := by
  rw [List.filter_eq_self]
  intro c member
  have each := List.all_eq_true.1 inner c member
  simp only [isInner, Bool.and_eq_true] at each
  exact each.1.2

/-- Where operands are apart by commas and blanks, blanks are left. -/
lemma filter_intercalate {texts : List (List Char)}
    (inner : ∀ text ∈ texts, text.all isInner = true) :
    ([',', ' '].intercalate texts).filter (· != ',') = [' '].intercalate texts := by
  induction texts with
  | nil => rfl
  | cons text texts ih =>
    have first := filter_inner (inner text (.head _))
    have rest := ih fun t member => inner t (.tail _ member)
    cases texts with
    | nil => rw [List.intercalate_singleton, List.intercalate_singleton, first]
    | cons t texts =>
      rw [List.intercalate_cons_cons, List.intercalate_cons_cons, List.filter_append,
        List.filter_append, first, rest]
      rfl

/-- The texts of the operands of an instruction. -/
def Instruction.operandTexts (i : Instruction) : List (List Char) :=
  i.op.form.slots.map fun s => (s.operand i).text.toList

/-- No operand has a gap or a separator in it. -/
lemma isInner_operandTexts {i : Instruction} :
    ∀ text ∈ i.operandTexts, text.all isInner = true := by
  intro text shown
  obtain ⟨s, listed, rfl⟩ := List.mem_map.1 shown
  exact isInner_text i listed

/-- The name of an operation has no gap or separator in it. -/
lemma isInner_name (i : Instruction) : i.op.form.name.toList.all isInner = true := by
  have named := named_form i.op
  rw [Form.named, Bool.and_eq_true] at named
  exact named.1

/-- The text of a line: the name, and the operands apart by commas and blanks if there are any. -/
lemma toList_mnemonic (i : Instruction) :
    i.mnemonic.toList =
      match i.operandTexts with
      | [] => i.op.form.name.toList
      | texts => i.op.form.name.toList ++ ' ' :: [',', ' '].intercalate texts := by
  rw [Instruction.mnemonic, assembly_eq, Assembly.text, Instruction.operandTexts]
  cases i.op.form.slots with
  | nil => rfl
  | cons s slots =>
    have texts : ((s :: slots).map (·.operand i)).map (fun o => o.text.toList) =
        (s :: slots).map fun s => (s.operand i).text.toList := List.map_map
    simp only [List.map_cons, String.toList_append, String.toList_intercalate, List.map_map]
    rw [List.append_assoc]
    rfl

/-- The fields of a line are its name and its operands. -/
lemma fields_mnemonic (i : Instruction) :
    fields i.mnemonic.toList = i.op.form.name.toList :: i.operandTexts := by
  have inner : ∀ text ∈ i.op.form.name.toList :: i.operandTexts, ' ' ∉ text := by
    intro text listed
    rcases List.mem_cons.1 listed with rfl | shown
    · exact not_mem_of_isInner (isInner_name i) rfl
    · exact not_mem_of_isInner (isInner_operandTexts text shown) rfl
  -- The blank behind the name separates like those behind the commas.
  have line : i.mnemonic.toList.filter (· != ',') =
      [' '].intercalate (i.op.form.name.toList :: i.operandTexts) := by
    have operands := filter_intercalate (isInner_operandTexts (i := i))
    rw [toList_mnemonic]
    cases shown : i.operandTexts with
    | nil =>
      rw [List.intercalate_singleton]
      exact filter_inner (isInner_name i)
    | cons text texts =>
      rw [shown] at operands
      rw [List.filter_append, filter_inner (isInner_name i), List.filter_cons_of_pos (by decide),
        operands, List.intercalate_cons_cons, List.append_assoc]
      rfl
  rw [fields, line, List.splitOn_intercalate ' ' inner (by simp)]

/-- Operands in a row have no line break among them. -/
lemma newline_not_mem_intercalate {texts : List (List Char)}
    (inner : ∀ text ∈ texts, text.all isInner = true) :
    '\n' ∉ [',', ' '].intercalate texts := by
  induction texts with
  | nil => exact List.not_mem_nil
  | cons text texts ih =>
    have first : '\n' ∉ text := not_mem_of_isInner (inner text (.head _)) rfl
    have rest := ih fun t member => inner t (.tail _ member)
    cases texts with
    | nil =>
      rw [List.intercalate_singleton]
      exact first
    | cons t texts =>
      rw [List.intercalate_cons_cons, List.mem_append, List.mem_append]
      rintro ((here | between) | behind)
      · exact first here
      · exact absurd between (by decide)
      · exact rest behind

/-- The text of an instruction stays on its line. -/
lemma newline_not_mem_mnemonic (i : Instruction) : '\n' ∉ i.mnemonic.toList := by
  have name : '\n' ∉ i.op.form.name.toList := not_mem_of_isInner (isInner_name i) rfl
  have operands := newline_not_mem_intercalate (isInner_operandTexts (i := i))
  rw [toList_mnemonic]
  cases shown : i.operandTexts with
  | nil => exact name
  | cons text texts =>
    rw [shown] at operands
    rw [List.mem_append, List.mem_cons]
    rintro (here | blank | behind)
    · exact name here
    · exact absurd blank (by decide)
    · exact operands behind

end Chip8
