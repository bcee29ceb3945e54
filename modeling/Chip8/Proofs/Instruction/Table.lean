import Mathlib.Data.List.Nodup
import Mathlib.Tactic.Lemma
import Chip8.Instruction.Decode

/-!
# The table of instructions

No word is accepted by two patterns of the table, but for the two special cases of `SYS` that come
before it (`apart_table`), and no operation occurs twice (`nodup_op_table`). So the order of the
table matters to `SYS` alone, and every other operation is that of the words which its own pattern
accepts: `op_decode_iff`.
-/

namespace Chip8

namespace Pattern

variable {p q : Pattern} {w : Word}

/-- Whether two patterns disagree on a bit that both of them look at. -/
def apart (q p : Pattern) : Bool := q.mask &&& p.mask &&& (q.bits ^^^ p.bits) != 0

/-- No word is accepted by two patterns that are apart. -/
lemma not_accepts_of_apart (apart : q.apart p = true) (accepts : p.accepts w = true) :
    q.accepts w = false := by
  rw [← Bool.not_eq_true]
  intro both
  simp only [Pattern.accepts, beq_iff_eq] at accepts both
  apply bne_iff_ne.1 apart
  rw [← accepts, ← both]
  apply BitVec.eq_of_getLsbD_eq
  intro k _
  rw [BitVec.getLsbD_and, BitVec.getLsbD_and, BitVec.getLsbD_xor, BitVec.getLsbD_and,
    BitVec.getLsbD_and]
  cases q.mask.getLsbD k with
  | false => simp
  | true =>
    cases p.mask.getLsbD k with
    | false => simp
    | true => simp

/-- A pattern of the table is apart from those before it, unless it is that of `SYS`. -/
lemma apart_table : table.Pairwise fun q p => p.op = .sys ∨ q.apart p = true := by decide +kernel

/-- Each operation has one pattern in the table. -/
lemma nodup_op_table : (table.map Pattern.op).Nodup := by decide +kernel

/-- The table lists no pattern for the words that are none of its own. -/
lemma op_ne_unknown : ∀ p ∈ table, p.op ≠ .unknown := by decide +kernel

/-- The first pattern that accepts a word is any that accepts it, where patterns are apart from
those before them. -/
lemma find?_eq_of_accepts {patterns : List Pattern}
    (separate : patterns.Pairwise fun q p => p.op = .sys ∨ q.apart p = true) (inside : p ∈ patterns)
    (notSys : p.op ≠ .sys) (accepts : p.accepts w = true) :
    patterns.find? (·.accepts w) = some p := by
  induction patterns with
  | nil => cases inside
  | cons q patterns ih =>
    obtain ⟨first, separate⟩ := List.pairwise_cons.1 separate
    cases inside with
    | head => exact List.find?_cons_of_pos accepts
    | tail _ inside =>
      rcases first p inside with sys | apart
      · exact absurd sys notSys
      · rw [List.find?_cons, not_accepts_of_apart apart accepts]
        exact ih separate inside

end Pattern

namespace Instruction

open Pattern

/-- Operations other than `SYS` are decoded from the words that their own pattern accepts. -/
theorem op_decode_iff {p : Pattern} {w : Word} (inside : p ∈ table) (notSys : p.op ≠ .sys) :
    (decode w).op = p.op ↔ p.accepts w = true := by
  constructor
  · intro same
    rw [decode, decodeWith] at same
    cases found : table.find? (·.accepts w) with
    | none =>
      rw [found] at same
      exact absurd same.symm (op_ne_unknown p inside)
    | some q =>
      rw [found] at same
      have accepts : q.accepts w = true :=
        List.find?_some (p := fun p : Pattern => p.accepts w) found
      obtain rfl :=
        List.inj_on_of_nodup_map nodup_op_table (List.mem_of_find?_eq_some found) inside same
      exact accepts
  · intro accepts
    rw [decode, decodeWith, find?_eq_of_accepts apart_table inside notSys accepts]
    rfl

end Instruction

end Chip8
