import Mathlib.Data.List.DropRight
import Mathlib.Data.Nat.Digits.Defs
import Mathlib.Tactic.Lemma
import Chip8.Number.Numeral

/-!
# The grammar of numerals

`Digits` and `Denotes` say which texts are numerals and for which numbers they stand: blank
characters around a sign and digits, with single underscores between them. A text is read exactly if
it is one (`readInt_of_denotes`, `readInt_of_not_denotes`), so the grammar alone tells the three
outcomes of reading a positive number apart. The other way round, a number that is written by the
grammar, in whatever scripts, is read back: `read_by_grammar`.
-/

namespace Chip8

/-! ## Blank characters and digits -/

/-- The ten digits of a script follow on its first one. -/
lemma exists_first_of_digit {c : Char} {d : Nat} (digit : decimalDigit? c = some d) :
    ∃ first ∈ zeroDigits, first ≤ c.toNat ∧ c.toNat < first + 10 := by
  obtain ⟨first, found, _⟩ := Option.map_eq_some_iff.1 digit
  have inside := List.find?_some found
  rw [Bool.and_eq_true, decide_eq_true_iff, decide_eq_true_iff] at inside
  exact ⟨first, List.mem_of_find?_eq_some found, inside⟩

/-- A digit of a script has its value there, as no two scripts share a character. -/
lemma decimalDigit?_ofNat {first d : Nat} (script : first ∈ zeroDigits) (small : d < 10) :
    decimalDigit? (Char.ofNat (first + d)) = some d := by
  have apart : zeroDigits.Pairwise (· + 10 ≤ ·) := by decide
  have valid : ∀ first ∈ zeroDigits, first + 10 ≤ 0xD800 ∨ 0xDFFF < first ∧
      first + 10 ≤ 0x110000 := by decide
  have code : (Char.ofNat (first + d)).toNat = first + d := by
    have inside : (first + d).isValidChar := by
      have sides := valid first script
      rw [Nat.isValidChar]
      omega
    rw [Char.ofNat, dif_pos inside]
    rfl
  obtain ⟨lower, higher, table⟩ := List.append_of_mem script
  rw [table, List.pairwise_append] at apart
  have found : zeroDigits.find? (fun first' => first' ≤ first + d && first + d < first' + 10) =
      some first := by
    rw [List.find?_eq_some_iff_append]
    refine ⟨by simpa using small, lower, higher, table, ?_⟩
    intro first' before
    have far := apart.2.2 first' before first (.head _)
    rw [Bool.not_eq_true', Bool.and_eq_false_iff]
    exact .inr (decide_eq_false (by omega))
  rw [decimalDigit?, code, found, Option.map_some, Nat.add_sub_cancel_left]

/-- A digit is not blank. -/
lemma isBlank_of_digit {c : Char} {d : Nat} (digit : decimalDigit? c = some d) :
    isBlank c = false := by
  obtain ⟨first, listed, above, below⟩ := exists_first_of_digit digit
  have apart : ∀ first ∈ zeroDigits, ∀ r ∈ blankRanges, first + 9 < r.first ∨ r.last < first := by
    decide
  rw [isBlank, CodeRange.anyHolds, List.any_eq_false]
  intro r member
  rw [CodeRange.holds, Bool.and_eq_true, decide_eq_true_iff, decide_eq_true_iff]
  have sides := apart first listed r member
  omega

/-- Dropping characters of a kind stops where the kind ends. -/
lemma dropWhile_append_of_boundary {p : Char → Bool} {inside rest : List Char}
    (holds : ∀ c ∈ inside, p c = true) (boundary : ∀ c, rest.head? = some c → p c = false) :
    (inside ++ rest).dropWhile p = rest := by
  rw [List.dropWhile_append_of_pos holds]
  cases rest with
  | nil => rfl
  | cons c rest => exact List.dropWhile_cons_of_neg (Bool.eq_false_iff.1 (boundary c rfl))

/-- What stands between blank characters and has none itself is left. -/
lemma trimBlank_append {before s after : List Char} (left : ∀ c ∈ before, isBlank c = true)
    (right : ∀ c ∈ after, isBlank c = true) (solid : ∀ c ∈ s, isBlank c = false)
    (nonempty : s ≠ []) :
    trimBlank (before ++ (s ++ after)) = s := by
  have right' : ∀ c ∈ after.reverse, isBlank c = true :=
    fun c member => right c (List.mem_reverse.1 member)
  have start : ∀ c, (s ++ after).head? = some c → isBlank c = false := by
    intro c head
    rw [List.head?_append_of_ne_nil s nonempty] at head
    exact solid c (List.mem_of_head? head)
  have stop : ∀ c, s.reverse.head? = some c → isBlank c = false :=
    fun c head => solid c (List.mem_reverse.1 (List.mem_of_head? head))
  rw [trimBlank, dropWhile_append_of_boundary left start, List.reverse_append,
    dropWhile_append_of_boundary right' stop, List.reverse_reverse]

/-- What is taken away at the ends of a text is blank. -/
lemma exists_append_trimBlank (s : List Char) :
    ∃ before after, s = before ++ (trimBlank s ++ after) ∧
      (∀ c ∈ before, isBlank c = true) ∧ ∀ c ∈ after, isBlank c = true := by
  refine ⟨s.takeWhile isBlank, (s.dropWhile isBlank).rtakeWhile isBlank, ?_, fun c =>
    List.mem_takeWhile_imp,
    fun c => List.mem_rtakeWhile_imp⟩
  have rest : trimBlank s ++ (s.dropWhile isBlank).rtakeWhile isBlank = s.dropWhile isBlank :=
    List.rdropWhile_append_rtakeWhile
  rw [rest, List.takeWhile_append_dropWhile]

namespace Numeral

/-! ## The grammar -/

/-- Digits of any scripts, with at most one underscore between two of them, and the numbers they
stand for. -/
inductive Digits : List Char → List Nat → Prop where
  | last {c d} :
    decimalDigit? c = some d →
    Digits [c] [d]
  | next {c d s ds} :
    decimalDigit? c = some d →
    Digits s ds →
    Digits (c :: s) (d :: ds)
  | underscore {c d s ds} :
    decimalDigit? c = some d →
    Digits s ds →
    Digits (c :: '_' :: s) (d :: ds)

/-- The signs a numeral may have. -/
inductive Sign where
  | none
  | plus
  | minus
deriving DecidableEq, Repr

namespace Sign

/-- How a sign is written. -/
def chars : Sign → List Char
  | none => []
  | plus => ['+']
  | minus => ['-']

/-- A number behind a sign. -/
def apply : Sign → Nat → Int
  | minus, n => -n
  | _, n => n

end Sign

/-- A text is a numeral: between blank characters stand a sign and the digits of a number in base
ten, the most significant one first. -/
inductive Denotes : List Char → Sign → Nat → Prop where
  | padded {before after body digits} (sign : Sign) :
    (∀ c ∈ before, isBlank c = true) →
    Digits body digits →
    (∀ c ∈ after, isBlank c = true) →
    Denotes (before ++ (sign.chars ++ body ++ after)) sign (Nat.ofDigits 10 digits.reverse)

variable {s body : List Char} {digits : List Nat} {sign : Sign} {text : String} {n : Nat}

/-! ## Digits -/

/-- Digits begin with a digit. -/
lemma Digits.exists_head (grammar : Digits s digits) :
    ∃ c rest d, s = c :: rest ∧ decimalDigit? c = some d := by
  cases grammar with
  | last digit => exact ⟨_, _, _, rfl, digit⟩
  | next digit _ => exact ⟨_, _, _, rfl, digit⟩
  | underscore digit _ => exact ⟨_, _, _, rfl, digit⟩

/-- Digits are read exactly if they keep to the grammar. -/
lemma digits?_eq_some_iff : digits? s = some digits ↔ Digits s digits := by
  constructor
  · intro read
    fun_induction digits? s generalizing digits with
    | case1 => cases read
    | case2 c =>
      obtain ⟨d, digit, rfl⟩ := Option.map_eq_some_iff.1 read
      exact .last digit
    | case3 c rest ih =>
      obtain ⟨d, digit, read⟩ := Option.bind_eq_some_iff.1 read
      obtain ⟨ds, tail, same⟩ := Option.bind_eq_some_iff.1 read
      cases same
      exact .underscore digit (ih tail)
    | case4 c rest _ _ ih =>
      obtain ⟨d, digit, read⟩ := Option.bind_eq_some_iff.1 read
      obtain ⟨ds, tail, same⟩ := Option.bind_eq_some_iff.1 read
      cases same
      exact .next digit (ih tail)
  · intro grammar
    induction grammar with
    | last digit => rw [digits?, digit, Option.map_some]
    | @next c d s ds digit rest ih =>
      -- What comes next begins with a digit, so it is neither at its end nor an underscore.
      obtain ⟨c', rest', d', rfl, digit'⟩ := rest.exists_head
      have plain : c' ≠ '_' := by
        rintro rfl
        cases digit'
      rw [digits?.eq_4 c (c' :: rest') nofun fun r same => plain (List.cons.inj same).1, digit, ih]
      rfl
    | underscore digit _ ih =>
      rw [digits?, digit, ih]
      rfl

/-- Digits consist of digits and underscores. -/
lemma Digits.isBody (grammar : Digits s digits) : ∀ c ∈ s, isBody c = true := by
  have ofDigit {c d} (digit : decimalDigit? c = some d) : Numeral.isBody c = true := by
    rw [Numeral.isBody, digit, Option.isSome_some, Bool.or_true]
  induction grammar with
  | last digit => exact List.forall_mem_singleton.2 (ofDigit digit)
  | next digit _ ih => exact List.forall_mem_cons.2 ⟨ofDigit digit, ih⟩
  | underscore digit _ ih =>
    exact List.forall_mem_cons.2 ⟨ofDigit digit, List.forall_mem_cons.2 ⟨rfl, ih⟩⟩

/-- Whether a character is a decimal digit. -/
def isDigit (c : Char) : Bool := (decimalDigit? c).isSome

/-- There are as many digits as characters that are digits. -/
lemma Digits.length_eq (grammar : Digits s digits) : digits.length = s.countP isDigit := by
  have ofDigit {c d} (digit : decimalDigit? c = some d) : Numeral.isDigit c = true := by
    rw [Numeral.isDigit, digit, Option.isSome_some]
  induction grammar with
  | last digit => rw [List.countP_singleton, ofDigit digit]; rfl
  | next digit _ ih => rw [List.countP_cons_of_pos (ofDigit digit), List.length_cons, ih]
  | underscore digit _ ih =>
    rw [List.countP_cons_of_pos (ofDigit digit), List.countP_cons_of_neg (by decide),
      List.length_cons, ih]

/-- The value of digits is theirs in base ten. -/
lemma value_eq (digits : List Nat) : value digits = Nat.ofDigits 10 digits.reverse := by
  rw [Nat.ofDigits_eq_foldr, List.foldr_reverse, value]
  simp only [Nat.cast_id, Nat.add_comm]

/-! ## Whole texts -/

/-- Neither a digit nor an underscore is blank. -/
lemma isBlank_of_isBody {c : Char} (inside : isBody c = true) : isBlank c = false := by
  rw [isBody, Bool.or_eq_true, beq_iff_eq] at inside
  rcases inside with rfl | digit
  · decide
  · obtain ⟨d, digit⟩ := Option.isSome_iff_exists.1 digit
    exact isBlank_of_digit digit

/-- Nothing in a number with a sign is blank. -/
lemma isBlank_of_signed (grammar : Digits body digits) (sign : Sign) :
    ∀ c ∈ sign.chars ++ body, isBlank c = false := by
  intro c member
  rcases List.mem_append.1 member with signs | digits
  · cases sign with
    | none => cases signs
    | plus | minus =>
      cases List.mem_singleton.1 signs
      decide
  · exact isBlank_of_isBody (grammar.isBody c digits)

/-- The sign is split off a number. -/
lemma splitSign_append (grammar : Digits body digits) (sign : Sign) :
    splitSign (sign.chars ++ body) = (decide (sign = .minus), body) := by
  cases sign with
  | plus | minus => rfl
  | none =>
    obtain ⟨c, rest, d, rfl, digit⟩ := grammar.exists_head
    refine splitSign.eq_3 _ ?_ ?_
    · rintro _ ⟨⟩
      cases digit
    · rintro _ ⟨⟩
      cases digit

/-- What is split off a text is a sign, or nothing. -/
lemma exists_sign (s : List Char) :
    ∃ sign : Sign, s = sign.chars ++ (splitSign s).2 ∧ (splitSign s).1 =
      decide (sign = .minus) := by
  fun_cases splitSign s with
  | case1 rest => exact ⟨.plus, rfl, rfl⟩
  | case2 rest => exact ⟨.minus, rfl, rfl⟩
  | case3 => exact ⟨.none, rfl, rfl⟩

/-- A numeral is read as the number it denotes, unless it has too many digits. -/
lemma readInt_of_padded {before after : List Char} (left : ∀ c ∈ before, isBlank c = true)
    (grammar : Digits body digits) (right : ∀ c ∈ after, isBlank c = true)
    (short : digits.length ≤ maxDigits)
    (whole : text.toList = before ++ (sign.chars ++ body ++ after)) :
    readInt text = .ok (sign.apply (Nat.ofDigits 10 digits.reverse)) := by
  obtain ⟨c, rest, _, rfl, _⟩ := grammar.exists_head
  have trimmed : trimBlank text.toList = sign.chars ++ c :: rest := by
    rw [whole]
    exact trimBlank_append left right (isBlank_of_signed grammar sign)
      (List.append_ne_nil_of_right_ne_nil _ (List.cons_ne_nil _ _))
  have inside : (c :: rest).takeWhile isBody = c :: rest :=
    List.takeWhile_eq_self_iff.2 grammar.isBody
  have outside : (c :: rest).dropWhile isBody = [] := List.dropWhile_eq_nil_iff.2 grammar.isBody
  simp only [readInt, trimmed, splitSign_append grammar, inside, outside,
    digits?_eq_some_iff.2 grammar, if_neg (Nat.not_lt_of_le short), value_eq]
  cases sign with
  | _ => rfl

/-- A part of a text does not have more digits than the text. -/
lemma Digits.length_le {inside : List Char} (grammar : Digits inside digits)
    (part : inside.Sublist s) (short : s.countP isDigit ≤ maxDigits) :
    digits.length ≤ maxDigits := by
  rw [grammar.length_eq]
  exact Nat.le_trans part.countP_le short

/-- A text that denotes an integer is read as this integer, unless it has too many digits. -/
lemma readInt_of_denotes (denotes : Denotes text.toList sign n)
    (short : text.toList.countP isDigit ≤ maxDigits) :
    readInt text = .ok (sign.apply n) := by
  generalize whole : text.toList = s at denotes
  cases denotes with
  | @padded before after body digits sign left grammar right =>
    have part : body.Sublist text.toList := by
      rw [whole]
      exact ((List.sublist_append_right _ _).trans (List.sublist_append_left _ _)).trans
        (List.sublist_append_right _ _)
    exact readInt_of_padded left grammar right (grammar.length_le part short) whole

/-- Text whose digits are all there is behind the sign is a numeral. -/
lemma exists_denotes
    (read : digits? ((splitSign (trimBlank text.toList)).2.takeWhile isBody) = some digits)
    (nothing : (splitSign (trimBlank text.toList)).2.dropWhile isBody = []) :
    ∃ sign : Sign, (splitSign (trimBlank text.toList)).1 = decide (sign = .minus) ∧
      Denotes text.toList sign (Nat.ofDigits 10 digits.reverse) := by
  obtain ⟨before, after, whole, left, right⟩ := exists_append_trimBlank text.toList
  obtain ⟨sign, signed, negative⟩ := exists_sign (trimBlank text.toList)
  have grammar := digits?_eq_some_iff.1 read
  rw [List.takeWhile_eq_self_iff.2 (List.dropWhile_eq_nil_iff.1 nothing)] at grammar
  refine ⟨sign, negative, ?_⟩
  rw [whole, signed]
  exact .padded sign left grammar right

/-- What is read is a numeral, however many digits it has. -/
lemma exists_denotes_of_readInt {k : Int} (read : readInt text = .ok k) :
    ∃ sign n, Denotes text.toList sign n ∧ k = sign.apply n := by
  rw [readInt] at read
  dsimp only at read
  split at read
  · cases read
  · next digits found =>
    split at read
    · cases read
    · split at read
      · cases read
      · next more =>
        rw [Bool.not_eq_true', Bool.not_eq_false, List.isEmpty_iff] at more
        obtain ⟨sign, negative, denotes⟩ := exists_denotes found more
        cases read
        refine ⟨sign, _, denotes, ?_⟩
        rw [negative, value_eq]
        cases sign with
        | _ => rfl

/-- A text that is no numeral is refused as such, unless it has too many digits. -/
lemma readInt_of_not_denotes (none : ∀ sign n, ¬ Denotes text.toList sign n)
    (short : text.toList.countP isDigit ≤ maxDigits) : readInt text = .error (.malformed text) := by
  rw [readInt]
  dsimp only
  split
  · rfl
  · next digits found =>
    have part : ((splitSign (trimBlank text.toList)).2.takeWhile isBody).Sublist text.toList := by
      obtain ⟨before, after, whole, _⟩ := exists_append_trimBlank text.toList
      obtain ⟨sign, signed, _⟩ := exists_sign (trimBlank text.toList)
      have behind : (splitSign (trimBlank text.toList)).2.Sublist (trimBlank text.toList) := by
        conv_rhs => rw [signed]
        exact List.sublist_append_right _ _
      have middle : (trimBlank text.toList).Sublist text.toList := by
        conv_rhs => rw [whole]
        exact (List.sublist_append_left _ _).trans (List.sublist_append_right _ _)
      exact ((List.takeWhile_sublist _).trans behind).trans middle
    have few := (digits?_eq_some_iff.1 found).length_le part short
    have more : ((splitSign (trimBlank text.toList)).2.dropWhile isBody).isEmpty = false := by
      rw [Bool.eq_false_iff, ne_eq, List.isEmpty_iff]
      intro nothing
      obtain ⟨sign, _, denotes⟩ := exists_denotes found nothing
      exact none sign _ denotes
    rw [if_neg (Nat.not_lt_of_le few), more]
    rfl

/-- A number with a sign is positive if the number is and the sign is not a minus. -/
lemma apply_pos_iff : 0 < sign.apply n ↔ 0 < n ∧ sign ≠ .minus := by
  cases sign with
  | none | plus => simp [Sign.apply]
  | minus => simp [Sign.apply]

/-- A number that is read is positive and denoted without a minus. -/
lemma exists_denotes_of_readPositive (read : readPositive text = .ok n) :
    0 < n ∧ ∃ sign, sign ≠ .minus ∧ Denotes text.toList sign n := by
  rw [readPositive] at read
  split at read
  · cases read
  · next k integer =>
    obtain ⟨sign, number, denotes, rfl⟩ := exists_denotes_of_readInt integer
    split at read
    · cases read
    · next above =>
      obtain ⟨positive, plain⟩ := apply_pos_iff.1 (Int.lt_of_not_ge above)
      have same : sign.apply number = number := by
        cases sign with
        | none | plus => rfl
        | minus => exact absurd rfl plain
      rw [same] at read
      cases read
      exact ⟨positive, sign, plain, denotes⟩

/-- So its text does not begin with a minus. -/
lemma head?_ne_of_readPositive (read : readPositive text = .ok n) :
    text.toList.head? ≠ some '-' := by
  obtain ⟨_, sign, plain, denotes⟩ := exists_denotes_of_readPositive read
  generalize text.toList = s at denotes
  cases denotes with
  | @padded before after body digits sign left grammar right =>
    cases before with
    | cons c before =>
      rintro ⟨⟩
      exact absurd (left '-' (.head _)) (by decide)
    | nil =>
      obtain ⟨c, rest, d, rfl, digit⟩ := grammar.exists_head
      cases sign with
      | none =>
        rintro ⟨⟩
        cases digit
      | plus => simp [Sign.chars]
      | minus => exact absurd rfl plain

/-- What a text is read as, by the grammar. -/
inductive ReadsAs (text : String) : Except NumeralError Nat → Prop where
  | positive {sign : Sign} {n : Nat} :
    Denotes text.toList sign n →
    0 < n →
    sign ≠ .minus →
    ReadsAs text (.ok n)
  | notPositive {sign : Sign} {n : Nat} :
    Denotes text.toList sign n →
    sign.apply n ≤ 0 →
    ReadsAs text (.error (.notPositive text))
  | malformed :
    (∀ sign n, ¬ Denotes text.toList sign n) →
    ReadsAs text (.error (.malformed text))

/-- A positive integer is accepted. -/
lemma readPositive_of_pos (read : readInt text = .ok (sign.apply n)) (positive : 0 < n)
    (plain : sign ≠ .minus) :
    readPositive text = .ok n := by
  have above : 0 < sign.apply n := apply_pos_iff.2 ⟨positive, plain⟩
  rw [readPositive, read]
  simp only [if_neg (Int.not_le_of_gt above)]
  cases sign with
  | none | plus => rfl
  | minus => exact absurd rfl plain

/-- An integer that is not positive is refused for this reason. -/
lemma readPositive_of_nonpos (read : readInt text = .ok (sign.apply n)) (below : sign.apply n ≤ 0) :
    readPositive text = .error (.notPositive text) := by
  rw [readPositive, read]
  exact if_pos below

/-- A text that does not have too many digits is read by the grammar. -/
lemma readsAs_readPositive (short : text.toList.countP isDigit ≤ maxDigits) :
    ReadsAs text (readPositive text) := by
  by_cases known : ∃ sign n, Denotes text.toList sign n
  · obtain ⟨sign, n, denotes⟩ := known
    have read := readInt_of_denotes denotes short
    by_cases below : sign.apply n ≤ 0
    · rw [readPositive_of_nonpos read below]
      exact .notPositive denotes below
    · obtain ⟨positive, plain⟩ := apply_pos_iff.1 (Int.lt_of_not_ge below)
      rw [readPositive_of_pos read positive plain]
      exact .positive denotes positive plain
  · have none : ∀ sign n, ¬ Denotes text.toList sign n :=
      fun sign n denotes => known ⟨sign, n, denotes⟩
    rw [readPositive, readInt_of_not_denotes none short]
    exact .malformed none

/-- Exactly the numerals of positive integers are accepted. -/
lemma readPositive_eq_ok_iff (short : text.toList.countP isDigit ≤ maxDigits) :
    readPositive text = .ok n ↔ 0 < n ∧ ∃ sign, sign ≠ .minus ∧ Denotes text.toList sign n := by
  constructor
  · exact exists_denotes_of_readPositive
  · rintro ⟨positive, sign, plain, denotes⟩
    exact readPositive_of_pos (readInt_of_denotes denotes short) positive plain

/-- Exactly the numerals of other integers are refused as not positive. -/
lemma readPositive_eq_notPositive_iff (short : text.toList.countP isDigit ≤ maxDigits) :
    readPositive text = .error (.notPositive text) ↔
    ∃ sign n, Denotes text.toList sign n ∧ sign.apply n ≤ 0 := by
  constructor
  · intro read
    have rule := readsAs_readPositive short
    rw [read] at rule
    cases rule with
    | notPositive denotes below => exact ⟨_, _, denotes, below⟩
  · rintro ⟨sign, n, denotes, below⟩
    exact readPositive_of_nonpos (readInt_of_denotes denotes short) below

/-- Exactly the texts that are no numerals are refused as such. -/
lemma readPositive_eq_malformed_iff (short : text.toList.countP isDigit ≤ maxDigits) :
    readPositive text = .error (.malformed text) ↔ ∀ sign n, ¬ Denotes text.toList sign n := by
  constructor
  · intro read
    have rule := readsAs_readPositive short
    rw [read] at rule
    cases rule with
    | malformed none => exact none
  · intro none
    rw [readPositive, readInt_of_not_denotes none short]

/-- A text that does not have too many digits is refused for one of two reasons. -/
lemma eq_of_readPositive_error {e : NumeralError} (short : text.toList.countP isDigit ≤ maxDigits)
    (refused : readPositive text = .error e) : e = .notPositive text ∨ e = .malformed text := by
  have rule := readsAs_readPositive short
  rw [refused] at rule
  cases rule with
  | notPositive => exact .inl rfl
  | malformed => exact .inr rfl

/-! ## Writing -/

/-- A digit as it is written: in the script whose digits follow on a first one, perhaps with an
underscore behind it. -/
structure Stroke where
  first : Nat
  digit : Nat
  underscored : Bool

/-- The character of a stroke. -/
def Stroke.char (k : Stroke) : Char := Char.ofNat (k.first + k.digit)

/-- Digits as they are written. There is no underscore behind the last one. -/
def written : List Stroke → List Char
  | [] => []
  | [k] => [k.char]
  | k :: ks => if k.underscored then k.char :: '_' :: written ks else k.char :: written ks

/-- It is a digit with the value of the stroke. -/
lemma decimalDigit?_char {k : Stroke} (script : k.first ∈ zeroDigits) (small : k.digit < 10) :
    decimalDigit? k.char = some k.digit := decimalDigit?_ofNat script small

/-- What is written keeps to the grammar. -/
lemma digits_written {strokes : List Stroke} (nonempty : strokes ≠ [])
    (scripts : ∀ k ∈ strokes, k.first ∈ zeroDigits) (small : ∀ k ∈ strokes, k.digit < 10) :
    Digits (written strokes) (strokes.map Stroke.digit) := by
  fun_induction written strokes with
  | case1 => exact absurd rfl nonempty
  | case2 k => exact .last (decimalDigit?_char (scripts k (.head _)) (small k (.head _)))
  | case3 k ks more _ ih =>
    have rest := ih more (fun k member => scripts k (.tail _ member)) (fun k member =>
      small k (.tail _ member))
    exact .underscore (decimalDigit?_char (scripts k (.head _)) (small k (.head _))) rest
  | case4 k ks more _ ih =>
    have rest := ih more (fun k member => scripts k (.tail _ member)) (fun k member =>
      small k (.tail _ member))
    exact .next (decimalDigit?_char (scripts k (.head _)) (small k (.head _))) rest

/-- A positive number that is written in base ten is read back. -/
lemma readPositive_written {zeros : Nat} {strokes : List Stroke} {before after : List Char}
    (positive : 0 < n) (left : ∀ c ∈ before, isBlank c = true)
    (right : ∀ c ∈ after, isBlank c = true) (plain : sign ≠ .minus)
    (scripts : ∀ k ∈ strokes, k.first ∈ zeroDigits)
    (decimal : strokes.map Stroke.digit = List.replicate zeros 0 ++ (Nat.digits 10 n).reverse)
    (short : strokes.length ≤ maxDigits) :
    readPositive (String.ofList (before ++ (sign.chars ++ written strokes ++ after))) = .ok n := by
  -- Every digit is a leading zero or one of the number, so there are digits, each of them below
  -- ten.
  have small : ∀ k ∈ strokes, k.digit < 10 := by
    intro k member
    have listed : k.digit ∈ List.replicate zeros 0 ++ (Nat.digits 10 n).reverse := by
      rw [← decimal]
      exact List.mem_map_of_mem member
    rcases List.mem_append.1 listed with zero | digit
    · rw [List.eq_of_mem_replicate zero]
      decide
    · exact Nat.digits_lt_base (by decide) (List.mem_reverse.1 digit)
  have nonempty : strokes ≠ [] := by
    rintro rfl
    have nothing := (List.append_eq_nil_iff.1 decimal.symm).2
    rw [List.reverse_eq_nil_iff, Nat.digits_eq_nil_iff_eq_zero] at nothing
    omega
  have number : Nat.ofDigits 10 (strokes.map Stroke.digit).reverse = n := by
    rw [decimal, List.reverse_append, List.reverse_reverse, List.reverse_replicate,
      Nat.ofDigits_append_replicate_zero, Nat.ofDigits_digits]
  have few : (strokes.map Stroke.digit).length ≤ maxDigits := by rwa [List.length_map]
  have read : readInt (String.ofList (before ++ (sign.chars ++ written strokes ++ after))) =
      .ok (sign.apply n) := by
    rw [← number]
    exact readInt_of_padded left (digits_written nonempty scripts small) right few
      String.toList_ofList
  exact readPositive_of_pos read positive plain

/-- Reading a positive number goes by the grammar. A text with not too many digits is read as a
number exactly if it denotes that number, without a minus, and the number is positive; it is refused
for its value exactly if it denotes a number that is not positive, with any sign; and it is refused
as malformed exactly if it is no numeral. There is no fourth outcome. So a positive number that is
written in base ten, with blank characters around it, zeros and perhaps a plus in front of it, in
any scripts and with single underscores between its digits, is read back. -/
theorem read_by_grammar :
    (∀ text : String, text.toList.countP isDigit ≤ 4300 →
      (∀ n, readPositive text = .ok n ↔ 0 < n ∧ ∃ sign, sign ≠ .minus ∧
        Denotes text.toList sign n) ∧
      (readPositive text = .error (.notPositive text) ↔
        ∃ sign n, Denotes text.toList sign n ∧ sign.apply n ≤ 0) ∧
      (readPositive text = .error (.malformed text) ↔ ∀ sign n, ¬ Denotes text.toList sign n) ∧
      ∀ e, readPositive text = .error e → e = .notPositive text ∨ e = .malformed text) ∧
    ∀ (n zeros : Nat) (sign : Sign) (strokes : List Stroke) (before after : List Char), 0 < n →
    sign ≠ .minus →
      (∀ c ∈ before, isBlank c = true) → (∀ c ∈ after, isBlank c = true) →
      (∀ k ∈ strokes, k.first ∈ zeroDigits) →
      strokes.map Stroke.digit = List.replicate zeros 0 ++ (Nat.digits 10 n).reverse →
      strokes.length ≤ 4300 →
      readPositive (String.ofList (before ++ (sign.chars ++ written strokes ++ after))) =
        .ok n := by
  constructor
  · intro text short
    exact ⟨fun n => readPositive_eq_ok_iff short, readPositive_eq_notPositive_iff short,
      readPositive_eq_malformed_iff short, fun e => eq_of_readPositive_error short⟩
  · intro n zeros sign strokes before after positive plain left right scripts decimal short
    exact readPositive_written positive left right plain scripts decimal short

/-- A numeral with digits of three scripts and an underscore among them, between blank characters of
two kinds. A zero is refused for its value, whatever its sign, and a numeral with two underscores in
a row is none. -/
theorem mixed_scripts_read :
    readPositive " \u2003+\u0660_1\uFF12\n" = .ok 12 ∧
      (∃ sign n, Denotes "-0".toList sign n ∧ sign.apply n ≤ 0) ∧
      ∀ sign n, ¬ Denotes "1__2".toList sign n := by
  obtain ⟨reading, writing⟩ := read_by_grammar
  obtain ⟨_, zero, _⟩ := reading "-0" (by decide)
  obtain ⟨_, _, malformed, _⟩ := reading "1__2" (by decide)
  have before : ∀ c ∈ [' ', '\u2003'], isBlank c = true :=
    List.forall_mem_cons.mpr ⟨by decide, List.forall_mem_singleton.mpr (by decide)⟩
  have after : ∀ c ∈ ['\n'], isBlank c = true := List.forall_mem_singleton.mpr (by decide)
  refine ⟨?_, zero.1 (by decide), malformed.1 (by decide)⟩
  exact writing 12 1 .plus [⟨0x660, 0, true⟩, ⟨0x30, 1, false⟩, ⟨0xFF10, 2, false⟩] [' ', '\u2003']
    ['\n'] (by decide)
    (by decide) before after (by decide) (by simp) (by decide)

end Numeral

end Chip8
