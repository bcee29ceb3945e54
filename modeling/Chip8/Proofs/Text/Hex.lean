import Mathlib.Tactic.Lemma
import Chip8.Text.Hex

/-!
# Hexadecimal numbers read back

`read?` is the number that upper-case digits stand for. What `upper` writes has at least the places
that were asked for, and stands for the number that was written (`read?_upper`); it is made of
digits only (`mem_upper`), and of no more places than were asked for if these are enough
(`length_upper`).
-/

namespace Chip8.Hex

/-- The value of an upper-case digit. -/
def digitValue? (c : Char) : Option Nat :=
  if '0' ≤ c ∧ c ≤ '9' then some (c.toNat - 0x30)
  else if 'A' ≤ c ∧ c ≤ 'F' then some (c.toNat - 0x37)
  else none

/-- The number that upper-case digits stand for, the most significant first. -/
def read? (digits : List Char) : Option Nat :=
  digits.foldlM (fun n c => (digitValue? c).map (16 * n + ·)) 0

/-- A digit is read back to its value. -/
lemma digitValue?_upperDigit : ∀ d < 16, digitValue? (upperDigit d) = some d := by decide

/-- A number that is not a digit alone has one digit more than without its last one. -/
lemma digitCount_div {n : Nat} (large : 16 ≤ n) : digitCount (n / 16) + 1 = digitCount n := by
  have halves : n / 16 = n / 2 / 2 / 2 / 2 := by omega
  have bits : n.log2 = (n / 2 / 2 / 2 / 2).log2 + 4 := by
    rw [Nat.log2_def n, if_pos (by omega), Nat.log2_def (n / 2), if_pos (by omega),
      Nat.log2_def (n / 2 / 2), if_pos (by omega), Nat.log2_def (n / 2 / 2 / 2), if_pos (by omega)]
  rw [digitCount, digitCount, halves, bits]
  omega

/-- Digits that are enough for a number stand for it. No digits are enough for zero. -/
lemma read?_places {count n : Nat} (enough : n = 0 ∨ digitCount n ≤ count) :
    read? (places upperDigit count n) = some n := by
  induction count generalizing n with
  | zero =>
    rcases enough with rfl | none
    · rfl
    · cases none
  | succ count ih =>
    have rest : n / 16 = 0 ∨ digitCount (n / 16) ≤ count := by
      by_cases large : 16 ≤ n
      · have shorter := digitCount_div large
        have one : digitCount n ≤ count + 1 := enough.resolve_left (by omega)
        exact .inr (by omega)
      · exact .inl (by omega)
    rw [read?, places, List.foldlM_append]
    show (read? (places upperDigit count (n / 16))).bind _ = _
    rw [ih rest]
    simp only [Option.bind_some, List.foldlM_cons, List.foldlM_nil,
      digitValue?_upperDigit _ (Nat.mod_lt n (by decide)), Option.map_some]
    exact congrArg some (Nat.div_add_mod n 16)

/-- What is written has the places that were asked for, and stands for the number. -/
lemma read?_upper (width n : Nat) :
    width ≤ (upper width n).length ∧ read? (upper width n).toList = some n := by
  rw [upper, String.length_ofList, length_places, String.toList_ofList]
  exact ⟨Nat.le_max_left _ _, read?_places (.inr (Nat.le_max_right _ _))⟩

/-- A number is written in digits. -/
lemma mem_places {digit : Nat → Char} {count n : Nat} {c : Char}
    (written : c ∈ places digit count n) :
    ∃ d < 16, c = digit d := by
  induction count generalizing n with
  | zero => cases written
  | succ count ih =>
    rcases List.mem_append.1 written with first | last
    · exact ih first
    · exact ⟨n % 16, Nat.mod_lt n (by decide), List.mem_singleton.1 last⟩

/-- With leading zeros, too, it is written in digits. -/
lemma mem_upper {width n : Nat} {c : Char} (written : c ∈ (upper width n).toList) :
    ∃ d < 16, c = upperDigit d := by
  rw [upper, String.toList_ofList] at written
  exact mem_places written

/-- A number with few enough digits is as wide as it was asked for. -/
lemma length_upper {width n : Nat} (enough : digitCount n ≤ width) :
    (upper width n).toList.length = width := by
  rw [upper, String.toList_ofList, length_places]
  exact Nat.max_eq_left enough

end Chip8.Hex
