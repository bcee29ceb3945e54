import Chip8.Proofs.Instruction.Table

/-!
# Reordered tables

Two patterns of the table accept the same word only if one is that of `SYS` and the other a special
case of it (`overlap_or_apart`). So the patterns may stand in any order in which the special cases
come first, and every word still gets the same pattern (`find?_eq_of_perm`). `decoded_in_any_order`
says that no other order will do, which words are accepted twice, and how the fields of an
instruction make up its word.
-/

namespace Chip8

namespace Pattern

variable {p q : Pattern} {w : Word} {patterns : List Pattern} {special : Op}

/-- Whether one of two patterns is that of `SYS` and the other one that of a special case. -/
def Overlap (special : Op) (p q : Pattern) : Prop :=
  p.op = special ∧ q.op = .sys ∨ p.op = .sys ∧ q.op = special

/-- Whether two patterns overlap in a special case is decided by comparing their operations. -/
instance (special : Op) (p q : Pattern) : Decidable (Overlap special p q) :=
  inferInstanceAs (Decidable (_ ∨ _))

/-- Whether the special cases of `SYS` come before it: behind the pattern of `SYS` there is none of
them. -/
def SpecialFirst (patterns : List Pattern) : Prop :=
  patterns.Pairwise fun q p => q.op = .sys → p.op ≠ .cls ∧ p.op ≠ .ret

/-- Whether special cases come first is decided by going through the pairs of patterns. -/
instance (patterns : List Pattern) : Decidable (SpecialFirst patterns) :=
  inferInstanceAs (Decidable (patterns.Pairwise _))

/-! ## Words that are accepted twice -/

/-- Two patterns of the table disagree on a bit that both look at, except for `SYS` and its special
cases. -/
lemma overlap_or_apart :
    ∀ p ∈ table, ∀ q ∈ table, p ≠ q → Overlap .cls p q ∨ Overlap .ret p q ∨ p.apart q = true := by
      decide +kernel

/-- The pattern of a special case accepts one word, which `SYS` accepts as well. -/
lemma accept_both_iff {word : Word}
    (exact : ∀ r ∈ table, r.op = special → r.mask = BitVec.allOnes 16 ∧ r.bits = word)
    (sys : ∀ r ∈ table, r.op = .sys → r.accepts word = true) (overlap : Overlap special p q)
    (inside : p ∈ table) (inside' : q ∈ table) :
    p.accepts w = true ∧ q.accepts w = true ↔ w = word := by
  have only {r : Pattern} (inside : r ∈ table) (same : r.op = special) : r.accepts w = true ↔
      w = word := by
    obtain ⟨mask, bits⟩ := exact r inside same
    rw [accepts, mask, bits, BitVec.and_allOnes, beq_iff_eq]
  rcases overlap with ⟨here, there⟩ | ⟨there, here⟩
  · rw [only inside here]
    exact and_iff_left_of_imp fun same => same ▸ sys q inside' there
  · rw [only inside' here]
    exact and_iff_right_of_imp fun same => same ▸ sys p inside there

/-- The word of `cls` is the only one that its pattern shares with that of `sys`. -/
lemma accept_both_cls (overlap : Overlap .cls p q) (inside : p ∈ table) (inside' : q ∈ table) :
    p.accepts w = true ∧ q.accepts w = true ↔ w = 0x00E0 :=
  accept_both_iff (by decide +kernel) (by decide +kernel) overlap inside inside'

/-- The word of `ret` is the only one that its pattern shares with that of `sys`. -/
lemma accept_both_ret (overlap : Overlap .ret p q) (inside : p ∈ table) (inside' : q ∈ table) :
    p.accepts w = true ∧ q.accepts w = true ↔ w = 0x00EE :=
  accept_both_iff (by decide +kernel) (by decide +kernel) overlap inside inside'

/-- Two patterns of the table that accept the same word are `SYS` and a special case, and the word
is the one of that case. -/
lemma accept_both_iff_overlap (inside : p ∈ table) (inside' : q ∈ table) (other : p ≠ q) :
    p.accepts w = true ∧ q.accepts w = true ↔
    w = 0x00E0 ∧ Overlap .cls p q ∨ w = 0x00EE ∧ Overlap .ret p q := by
  constructor
  · intro both
    rcases overlap_or_apart p inside q inside' other with cls | ret | apart
    · exact .inl ⟨(accept_both_cls cls inside inside').1 both, cls⟩
    · exact .inr ⟨(accept_both_ret ret inside inside').1 both, ret⟩
    · cases both.1.symm.trans (not_accepts_of_apart apart both.2)
  · rintro (⟨word, cls⟩ | ⟨word, ret⟩)
    · exact (accept_both_cls cls inside inside').2 word
    · exact (accept_both_ret ret inside inside').2 word

/-! ## Reordering -/

/-- In another order of the table, too, each operation has one pattern. -/
lemma nodup_op_of_perm (perm : patterns.Perm table) : (patterns.map op).Nodup :=
  (perm.map op).nodup_iff.2 nodup_op_table

/-- Where the special cases come first, every pattern but that of `SYS` is apart from those before
it. -/
lemma apart_of_perm (perm : patterns.Perm table) (first : SpecialFirst patterns) :
    patterns.Pairwise fun q p => p.op = .sys ∨ q.apart p = true := by
  have distinct : patterns.Pairwise fun q p => Overlap .cls q p ∨ Overlap .ret q p ∨
      q.apart p = true :=
    (List.Nodup.of_map op (nodup_op_of_perm perm)).pairwise_of_forall_ne fun q inside p inside' =>
      overlap_or_apart q (perm.subset inside) p (perm.subset inside')
  refine (distinct.and first).imp ?_
  rintro q p ⟨(⟨-, sys⟩ | ⟨sys, cls⟩) | (⟨-, sys⟩ | ⟨sys, ret⟩) | apart, notBehind⟩
  · exact .inl sys
  · exact absurd cls (notBehind sys).1
  · exact .inl sys
  · exact absurd ret (notBehind sys).2
  · exact .inr apart

/-- A pattern that is found accepts the word. -/
lemma accepts_of_find? (found : patterns.find? (·.accepts w) = some p) : p.accepts w = true :=
  List.find?_some (p := fun p : Pattern => p.accepts w) found

/-- The first pattern that accepts a word is the same in every order in which the special cases come
first. -/
lemma find?_eq_of_perm (perm : patterns.Perm table) (first : SpecialFirst patterns) (w : Word) :
    patterns.find? (·.accepts w) = table.find? (·.accepts w) := by
  cases found : patterns.find? (·.accepts w) with
  | none =>
    have refused := List.find?_eq_none.1 found
    exact (List.find?_eq_none.2 fun p inside => refused p (perm.symm.subset inside)).symm
  | some p =>
    have accepts := accepts_of_find? found
    have inside : p ∈ table := perm.subset (List.mem_of_find?_eq_some found)
    by_cases sys : p.op = .sys
    · -- A pattern other than that of `SYS` would have been found in both orders.
      obtain ⟨q, found'⟩ : ∃ q, table.find? (·.accepts w) = some q :=
        Option.isSome_iff_exists.1 (List.find?_isSome.2 ⟨p, inside, accepts⟩)
      have accepts' := accepts_of_find? found'
      have inside' : q ∈ table := List.mem_of_find?_eq_some found'
      have sys' : q.op = .sys := by
        by_contra notSys
        have instead := find?_eq_of_accepts (apart_of_perm perm first) (perm.symm.subset inside')
          notSys accepts'
        cases found.symm.trans instead
        exact notSys sys
      rw [found', List.inj_on_of_nodup_map nodup_op_table inside inside' (sys.trans sys'.symm)]
    · exact (find?_eq_of_accepts apart_table inside sys accepts).symm

/-- Where the word of a special case is decoded as such, the pattern of the special case does not
come behind that of `SYS`. -/
lemma pairwise_of_op_decodeWith {word : Word} (perm : patterns.Perm table) (notSys : special ≠ .sys)
    (known : special ≠ .unknown) (sys : ∀ r ∈ table, r.op = .sys → r.accepts word = true)
    (named : (Instruction.decodeWith patterns word).op = special) :
    patterns.Pairwise fun q p => q.op = .sys → p.op ≠ special := by
  cases found : patterns.find? (·.accepts word) with
  | none =>
    rw [Instruction.decodeWith, found] at named
    exact absurd named.symm known
  | some p =>
    rw [Instruction.decodeWith, found] at named
    obtain ⟨_, before, behind, rfl, refused⟩ := List.find?_eq_some_iff_append.1 found
    have noSys : ∀ q ∈ before, q.op ≠ .sys := by
      intro q inside same
      have accepts := sys q (perm.subset (List.mem_append_left _ inside)) same
      have refuses := refused q inside
      rw [accepts] at refuses
      cases refuses
    have once := nodup_op_of_perm perm
    rw [List.map_append, List.map_cons, List.nodup_append, List.nodup_cons] at once
    have noSpecial : ∀ q ∈ behind, q.op ≠ special := by
      intro q inside same
      exact once.2.1.1 (List.mem_map.2 ⟨q, inside, same.trans named.symm⟩)
    refine List.pairwise_append.2 ⟨?_, List.pairwise_cons.2 ⟨?_, ?_⟩, ?_⟩
    · exact List.pairwise_of_forall_mem_list fun q inside r _ same => absurd same (noSys q inside)
    · exact fun r _ same => absurd (named.symm.trans same) notSys
    · exact List.pairwise_of_forall_mem_list fun q _ r inside _ => noSpecial r inside
    · exact fun q inside r _ same => absurd same (noSys q inside)

end Pattern

namespace Instruction

open Pattern

/-- The word of an integer, as a number. -/
lemma toNat_opcode_ofInt (w : Int) : ((ofInt w).opcode.toNat : Int) = w % 0x10000 := by
  show ((BitVec.ofInt 16 w).toNat : Int) = _
  rw [BitVec.toNat_ofInt]
  omega

/-- The fields are the digits of the word to base sixteen. -/
lemma fields_opcode (i : Instruction) :
    i.opcode.toNat % 0x1000 = i.nnn.toNat ∧ i.nnn.toNat = 0x100 * i.x.toNat + i.nn.toNat ∧
      i.nn.toNat = 0x10 * i.y.toNat + i.n.toNat := by
  simp only [nnn, x, nn, y, n, BitVec.extractLsb'_toNat, Nat.shiftRight_eq_div_pow]
  omega

/-- A word that no pattern of a table accepts is unknown, and no other word is. -/
lemma op_decode_eq_unknown_iff {w : Word} :
    (decode w).op = .unknown ↔ ∀ p ∈ table, p.accepts w = false := by
  rw [decode, decodeWith]
  cases found : table.find? (·.accepts w) with
  | none => simpa using List.find?_eq_none.1 found
  | some p =>
    have accepts := accepts_of_find? found
    have inside : p ∈ table := List.mem_of_find?_eq_some found
    constructor
    · intro unknown
      exact absurd unknown (op_ne_unknown p inside)
    · intro refused
      cases accepts.symm.trans (refused p inside)

/-- A reordered table decodes every word as before exactly if the special cases come first. -/
lemma specialFirst_iff {patterns : List Pattern} (perm : patterns.Perm table) :
    SpecialFirst patterns ↔ ∀ w : Int, decodeWith patterns (BitVec.ofInt 16 w) = ofInt w := by
  constructor
  · intro first w
    rw [ofInt, decode, decodeWith, decodeWith, find?_eq_of_perm perm first]
  · intro same
    have cls : (decodeWith patterns 0x00E0).op = .cls := by
      rw [show (0x00E0 : Word) = BitVec.ofInt 16 0x00E0 from rfl, same]
      rfl
    have ret : (decodeWith patterns 0x00EE).op = .ret := by
      rw [show (0x00EE : Word) = BitVec.ofInt 16 0x00EE from rfl, same]
      rfl
    have clsFirst := pairwise_of_op_decodeWith perm (by decide) (by decide) (by decide +kernel) cls
    have retFirst := pairwise_of_op_decodeWith perm (by decide) (by decide) (by decide +kernel) ret
    refine (clsFirst.and retFirst).imp ?_
    intro p q behind sys
    exact ⟨behind.1 sys, behind.2 sys⟩

/-- An integer stands for the word of its low sixteen bits. -/
lemma ofInt_eq_iff {w : Int} {word : Word} :
    BitVec.ofInt 16 w = word ↔ w % 0x10000 = word.toNat := by
  rw [← toNat_opcode_ofInt w, Int.ofNat_inj]
  exact ⟨congrArg BitVec.toNat, BitVec.eq_of_toNat_eq⟩

/-- The order of the table matters to `SYS` and its special cases alone. A reordered table decodes
all integers as before exactly if the patterns of the special cases come before that of `SYS`. No
two patterns accept the same word, but for the words of the two special cases, which `SYS` accepts
as well. Whatever the integer, its low sixteen bits are the word of the instruction, the operands
are the digits of the word, and the instruction is unknown exactly if no pattern accepts the
word. -/
theorem decoded_in_any_order :
    (∀ patterns : List Pattern, patterns.Perm table →
      (SpecialFirst patterns ↔ ∀ w : Int, decodeWith patterns (BitVec.ofInt 16 w) = ofInt w)) ∧
    (∀ w : Int, ∀ p ∈ table, ∀ q ∈ table, p ≠ q →
      (p.accepts (BitVec.ofInt 16 w) = true ∧ q.accepts (BitVec.ofInt 16 w) = true ↔
        w % 0x10000 = 0x00E0 ∧ Overlap .cls p q ∨ w % 0x10000 = 0x00EE ∧ Overlap .ret p q)) ∧
    ∀ w : Int,
      let i := ofInt w
      (i.opcode.toNat : Int) = w % 0x10000 ∧ i.opcode.toNat % 0x1000 = i.nnn.toNat ∧
        i.nnn.toNat = 0x100 * i.x.toNat + i.nn.toNat ∧ i.nn.toNat = 0x10 * i.y.toNat + i.n.toNat ∧
        (i.op = .unknown ↔ ∀ p ∈ table, p.accepts (BitVec.ofInt 16 w) = false) := by
  refine ⟨fun patterns perm => specialFirst_iff perm, ?_, ?_⟩
  · intro w p inside q inside' other
    rw [accept_both_iff_overlap inside inside' other, ofInt_eq_iff, ofInt_eq_iff]
    rfl
  · intro w i
    obtain ⟨low, middle, high⟩ := fields_opcode i
    exact ⟨toNat_opcode_ofInt w, low, middle, high, op_decode_eq_unknown_iff⟩

/-- The table backwards, but for `SYS`, which stays behind its special cases: a negative integer
whose low bits are the word of the first special case is still decoded as such, although `SYS`
accepts the word as well. -/
theorem decoded_backwards :
    let sys : Pattern := ⟨0xF000, 0x0000, .sys⟩
    let cls : Pattern := ⟨0xFFFF, 0x00E0, .cls⟩
    let patterns := (table.erase sys).reverse ++ [sys]
    patterns.Perm table ∧ SpecialFirst patterns ∧
      (decodeWith patterns (BitVec.ofInt 16 (-0xFF20))).op = .cls ∧
      cls.accepts (BitVec.ofInt 16 (-0xFF20)) = true ∧
      sys.accepts (BitVec.ofInt 16 (-0xFF20)) = true := by
  intro sys cls patterns
  have perm : patterns.Perm table := by decide +kernel
  have first : SpecialFirst patterns := by decide +kernel
  obtain ⟨orders, twice, _⟩ := decoded_in_any_order
  have both := (twice (-0xFF20) cls (by decide +kernel) sys (by decide +kernel) (by decide)).2
    (.inl ⟨by decide, .inl ⟨rfl, rfl⟩⟩)
  refine ⟨perm, first, ?_, both⟩
  rw [(orders patterns perm).1 first]
  rfl

end Instruction

end Chip8
