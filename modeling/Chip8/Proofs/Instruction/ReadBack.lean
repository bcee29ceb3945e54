import Chip8.Proofs.Instruction.Form
import Chip8.Proofs.Instruction.Listing

/-!
# Listings read back

A listing is text. Its lines are found between the newlines (`closedLines_listing`), the columns of
a line between the first two gaps of two blanks (`columns?_line`), and the digits of the second
column are the bytes of the program. So the program is read from its listing, but for a byte that is
left over: `listing_reproduces`.
-/

namespace Chip8

/-- The lines of a text. What stands behind the last newline is no line. -/
def closedLines (text : List Char) : List (List Char) := (text.splitOn '\n').dropLast

/-- What stands before the first two blanks in a row, and what stands behind them. -/
def cutAtGap? : List Char → Option (List Char × List Char)
  | [] => none
  | ' ' :: ' ' :: behind => some ([], behind)
  | c :: rest => (cutAtGap? rest).map fun (before, behind) => (c :: before, behind)

/-- The three columns of a line: its address, its opcode and its mnemonic. -/
def columns? (line : List Char) : Option (List Char × List Char × List Char) :=
  (cutAtGap? line).bind fun (address, rest) =>
    (cutAtGap? rest).map fun (opcode, mnemonic) => (address, opcode, mnemonic)

/-- The two bytes that the digits of an opcode stand for, the high one first. -/
def opcodeBytes? (digits : List Char) : Option (List Byte) :=
  (Hex.read? digits).map fun n => [BitVec.ofNat 8 (n / 256), BitVec.ofNat 8 (n % 256)]

/-- The bytes in the second column of a listing, line after line. -/
def listedBytes? (text : List Char) : Option (List Byte) :=
  ((closedLines text).mapM fun line => (columns? line).bind fun (_, opcode, _) =>
    opcodeBytes? opcode).map List.flatten

/-- A program without a byte that is left over. -/
def wholeWords (program : List Byte) : List Byte := program.take (2 * (program.length / 2))

/-! ## Lines -/

/-- Lines that are each closed by a line break are lines with a line break between them, and an
empty one behind. -/
lemma flatMap_closed (lines : List (List Char)) :
    lines.flatMap (· ++ ['\n']) = ['\n'].intercalate (lines ++ [[]]) := by
  induction lines with
  | nil => rfl
  | cons line lines ih =>
    rw [List.flatMap_cons, ih, List.cons_append]
    cases lines with
    | nil => simp
    | cons next lines => rw [List.cons_append, List.intercalate_cons_cons]

/-- Lines that were closed by line breaks are found again. -/
lemma closedLines_flatMap {lines : List (List Char)} (single : ∀ line ∈ lines, '\n' ∉ line) :
    closedLines (lines.flatMap (· ++ ['\n'])) = lines := by
  -- Behind the last newline stands an empty line, which is dropped.
  have apart : ∀ line ∈ lines ++ [[]], '\n' ∉ line := by
    intro line listed
    rcases List.mem_append.1 listed with listed | last
    · exact single line listed
    · rw [List.mem_singleton.1 last]
      exact List.not_mem_nil
  rw [closedLines, flatMap_closed, List.splitOn_intercalate '\n' apart (by simp),
    List.dropLast_concat]

/-- A line has an address, an opcode and a mnemonic, with gaps of two blanks between them. -/
lemma toList_line (n : Nat) (i : Instruction) :
    (ListingEntry.line ⟨n, i⟩).toList =
      (Hex.upper 3 n).toList ++ ' ' :: ' ' :: ((Hex.upper 4 i.opcode.toNat).toList ++
        ' ' :: ' ' :: i.mnemonic.toList) := by
  simp only [ListingEntry.line, String.toList_append, List.append_assoc]
  rfl

/-- A blank, a line break or a comma is not among hexadecimal digits. -/
lemma not_mem_upper {c : Char} (width n : Nat) (outer : isInner c = false) :
    c ∉ (Hex.upper width n).toList :=
  not_mem_of_isInner (isInner_upper width n) outer

/-- A line of a listing is a single line. -/
lemma newline_not_mem_line (n : Nat) (i : Instruction) :
    '\n' ∉ (ListingEntry.line ⟨n, i⟩).toList := by
  simp only [toList_line, List.mem_append, List.mem_cons, not_or]
  exact ⟨not_mem_upper 3 n rfl, by decide, by decide, not_mem_upper 4 _ rfl, by decide, by decide,
    newline_not_mem_mnemonic i⟩

/-! ## Columns -/

/-- A text without a blank before the first gap is cut there. -/
lemma cutAtGap?_append {before : List Char} (behind : List Char) (noBlank : ' ' ∉ before) :
    cutAtGap? (before ++ ' ' :: ' ' :: behind) = some (before, behind) := by
  induction before with
  | nil => rfl
  | cons c before ih =>
    have other : c ≠ ' ' := fun same => noBlank (same ▸ .head _)
    have rest := ih fun blank => noBlank (.tail _ blank)
    rw [List.cons_append, cutAtGap?, rest]
    · rfl
    · -- The equation used is the last one, which is for what does not begin with a gap.
      intro behind' same
      exact absurd same other

/-- A line is cut into its three columns. -/
lemma columns?_line (n : Nat) (i : Instruction) :
    columns? (ListingEntry.line ⟨n, i⟩).toList =
      some ((Hex.upper 3 n).toList, (Hex.upper 4 i.opcode.toNat).toList, i.mnemonic.toList) := by
  simp only [columns?, toList_line, cutAtGap?_append _ (not_mem_upper 3 n rfl), Option.bind_some,
    cutAtGap?_append _ (not_mem_upper 4 i.opcode.toNat rfl), Option.map_some]

/-- An opcode is written in four digits. -/
lemma length_upper_opcode (w : Word) : (Hex.upper 4 w.toNat).toList.length = 4 := by
  apply Hex.length_upper
  have bits : w.toNat.log2 < 16 := by
    by_cases zero : w.toNat = 0
    · rw [zero]
      decide
    · exact (Nat.log2_lt zero).2 w.isLt
  rw [Hex.digitCount]
  omega

/-- The bytes of a word are read from its digits. -/
lemma opcodeBytes?_upper (high low : Byte) :
    opcodeBytes? (Hex.upper 4 (Word.ofBytes high low).toNat).toList = some [high, low] := by
  have boundHigh : high.toNat < 256 := high.isLt
  have boundLow : low.toNat < 256 := low.isLt
  have value : (Word.ofBytes high low).toNat = high.toNat * 256 + low.toNat := by
    rw [Word.ofBytes, BitVec.toNat_append, ← Nat.shiftLeft_add_eq_or_of_lt low.isLt,
      Nat.shiftLeft_eq]
  have first : BitVec.ofNat 8 ((high.toNat * 256 + low.toNat) / 256) = high := by
    apply BitVec.eq_of_toNat_eq
    rw [BitVec.toNat_ofNat]
    omega
  have second : BitVec.ofNat 8 ((high.toNat * 256 + low.toNat) % 256) = low := by
    apply BitVec.eq_of_toNat_eq
    rw [BitVec.toNat_ofNat]
    omega
  rw [opcodeBytes?, (Hex.read?_upper _ _).2, Option.map_some, value, first, second]

/-! ## Programs -/

/-- Two bytes that make up a word are kept. -/
lemma wholeWords_cons_cons (high low : Byte) (rest : List Byte) :
    wholeWords (high :: low :: rest) = high :: low :: wholeWords rest := by
  have count : 2 * ((high :: low :: rest).length / 2) = 2 * (rest.length / 2) + 1 + 1 := by
    rw [List.length_cons, List.length_cons]
    omega
  rw [wholeWords, count]
  rfl

/-- A program without a word has no line. -/
lemma wholeWords_of_disassemble_eq_nil {origin : Int} {program : List Byte}
    (none : disassemble origin program = []) :
    wholeWords program = [] := by
  have count := length_disassemble origin program
  rw [none, List.length_nil] at count
  rw [wholeWords, ← count]
  rfl

/-- A byte that is left over makes no difference to a listing. -/
lemma disassemble_wholeWords (origin : Int) (program : List Byte) :
    disassemble origin (wholeWords program) = disassemble origin program := by
  induction origin, program using disassemble.induct with
  | case1 origin high low rest ih => rw [wholeWords_cons_cons, disassemble, disassemble, ih]
  | case2 program origin short =>
    have none : disassemble origin program = [] := disassemble.eq_2 origin program short
    rw [wholeWords_of_disassemble_eq_nil none, none]
    rfl

/-- The second column of a listing is the program. -/
lemma mapM_opcodeBytes? {origin : Int} (nonneg : 0 ≤ origin) (program : List Byte) :
    (((disassemble origin program).map fun e => e.line.toList).mapM fun line =>
        (columns? line).bind fun (_, opcode, _) => opcodeBytes? opcode).map List.flatten =
      some (wholeWords program) := by
  induction origin, program using disassemble.induct with
  | case1 origin high low rest ih =>
    obtain ⟨n, rfl⟩ := Int.eq_ofNat_of_zero_le nonneg
    obtain ⟨others, listed, flat⟩ :=
      Option.map_eq_some_iff.1 (ih (Int.add_nonneg nonneg (by decide)))
    have first := opcodeBytes?_upper high low
    simp only [disassemble, List.map_cons, List.mapM_cons, columns?_line, Option.bind_some,
      Instruction.opcode_decode, first, listed]
    rw [wholeWords_cons_cons, ← flat]
    rfl
  | case2 program origin short =>
    have none : disassemble origin program = [] := disassemble.eq_2 origin program short
    rw [wholeWords_of_disassemble_eq_nil none, none]
    rfl

/-- Each line of a listing shows a word at its address. -/
lemma getElem?_listingLines {program : List Byte} {k : Nat} {line : String}
    (listed : (listingLines program)[k]? = some line) :
    ∃ w : Word, line = ListingEntry.line ⟨(0x200 + 2 * k : Nat), .decode w⟩ := by
  rw [listingLines, List.getElem?_map] at listed
  obtain ⟨entry, found, rfl⟩ := Option.map_eq_some_iff.1 listed
  obtain ⟨inside, rfl⟩ := getElem?_disassemble_eq_some_iff.1 found
  exact ⟨_, rfl⟩

/-- The text of a listing is made of its lines, each closed by a line break. -/
lemma toList_listing (program : List Byte) :
    (listing program).toList = ((listingLines program).map String.toList).flatMap
      (· ++ ['\n']) := by
  have closed : (fun line : String => (line ++ "\n").toList) = fun line =>
      line.toList ++ ['\n'] := by
    funext line
    rw [String.toList_append]
    rfl
  rw [listing, String.toList_join, List.flatMap_map, List.flatMap_map, closed]

/-- The lines of a listing are found between its newlines. -/
lemma closedLines_listing (program : List Byte) :
    closedLines (listing program).toList = (listingLines program).map String.toList := by
  rw [toList_listing]
  apply closedLines_flatMap
  intro chars shown
  obtain ⟨line, listed, rfl⟩ := List.mem_map.1 shown
  obtain ⟨k, found⟩ := List.mem_iff_getElem?.1 listed
  obtain ⟨w, rfl⟩ := getElem?_listingLines found
  exact newline_not_mem_line _ _

/-- From a listing the bytes of a program are found again, up to a byte that was left over. -/
lemma listedBytes?_listing (program : List Byte) :
    listedBytes? (listing program).toList = some (wholeWords program) := by
  rw [listedBytes?, closedLines_listing, listingLines, List.map_map]
  exact mapM_opcodeBytes? (by decide) program

/-- A listing reproduces the program. It is made of a line for every two bytes, which falls into
three columns: the address, in hexadecimal and as large as it gets; the four digits of a word; and
the text of the instruction that the word stands for. The words are the program, but for a byte that
is left over; so two programs have the same listing exactly if they are the same but for such a
byte. -/
theorem listing_reproduces (program : List Byte) :
    let lines := closedLines (listing program).toList
    (listing program).toList = lines.flatMap (· ++ ['\n']) ∧
    lines.length = program.length / 2 ∧
    (∀ k line, lines[k]? = some line →
      ∃ (address opcode : List Char) (w : Word),
        columns? line = some (address, opcode, (Instruction.decode w).mnemonic.toList) ∧
        3 ≤ address.length ∧ Hex.read? address = some (0x200 + 2 * k) ∧
        opcode.length = 4 ∧ Hex.read? opcode = some w.toNat) ∧
    listedBytes? (listing program).toList = some (wholeWords program) ∧
    ∀ other, listing program = listing other ↔ wholeWords program = wholeWords other := by
  intro lines
  have lines_eq : lines = (listingLines program).map String.toList := closedLines_listing program
  refine ⟨?_, ?_, ?_, listedBytes?_listing program, ?_⟩
  · rw [lines_eq]
    exact toList_listing program
  · rw [lines_eq, List.length_map, listingLines, List.length_map, length_disassemble]
  · intro k line listed
    rw [lines_eq, List.getElem?_map] at listed
    obtain ⟨line, found, rfl⟩ := Option.map_eq_some_iff.1 listed
    obtain ⟨w, rfl⟩ := getElem?_listingLines found
    obtain ⟨wide, address⟩ := Hex.read?_upper 3 (0x200 + 2 * k)
    exact ⟨_, _, w, columns?_line _ _, wide, address, length_upper_opcode w,
      (Hex.read?_upper 4 w.toNat).2⟩
  · intro other
    constructor
    · intro same
      have read := listedBytes?_listing program
      rw [same, listedBytes?_listing] at read
      exact (Option.some.inj read).symm
    · intro same
      rw [listing, listingLines, ← disassemble_wholeWords, same, disassemble_wholeWords]
      rfl

/-- Two instructions and a byte that is left over: two lines, which say nothing of that byte. -/
theorem listing_of_five_bytes :
    let program : List Byte := [0x00, 0xE0, 0x12, 0x00, 0xFF]
    let lines := closedLines (listing program).toList
    lines.length = 2 ∧
    (∃ (line address opcode : List Char) (w : Word), lines[1]? = some line ∧
      columns? line = some (address, opcode, (Instruction.decode w).mnemonic.toList) ∧
      Hex.read? address = some 0x202 ∧ Hex.read? opcode = some w.toNat) ∧
    listedBytes? (listing program).toList = some [0x00, 0xE0, 0x12, 0x00] ∧
    listing program = listing [0x00, 0xE0, 0x12, 0x00] := by
  intro program lines
  obtain ⟨-, count, columns, bytes, same⟩ := listing_reproduces program
  have two : lines.length = 2 := count.trans (by decide)
  have whole : wholeWords program = [0x00, 0xE0, 0x12, 0x00] := by decide
  have inside : 1 < lines.length := by
    rw [two]
    decide
  have second : lines[1]? = some lines[1] := List.getElem?_eq_getElem inside
  obtain ⟨address, opcode, w, split, -, start, -, value⟩ := columns 1 lines[1] second
  refine ⟨two, ⟨lines[1], address, opcode, w, second, split, start, value⟩,
    bytes.trans (congrArg some whole), ?_⟩
  exact (same _).2 (by decide)

end Chip8
