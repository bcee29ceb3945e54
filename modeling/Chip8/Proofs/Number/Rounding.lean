import Mathlib.Algebra.Order.Floor.Ring
import Mathlib.Data.Rat.Floor
import Mathlib.Tactic.Linarith
import Chip8.Number.Rounding

/-!
# Rounding to integers

`RoundsTo` says what it is to be the nearest integer, with a half going to the even one, and
`roundsTo_roundHalfEven` that `roundHalfEven` finds it. Such an integer does not become less when
the rational grows (`RoundsTo.mono`), so there is one only (`RoundsTo.unique`).
-/

namespace Chip8

/-- A rational is rounded to an integer at most a half away, and to the even one of two. -/
structure RoundsTo (q : Rat) (n : Int) : Prop where
  near : |(n : Rat) - q| ≤ 1 / 2
  even : |(n : Rat) - q| = 1 / 2 → n % 2 = 0

variable {p q : Rat} {m n : Int}

/-- What is computed is what the rational rounds to. -/
lemma roundsTo_roundHalfEven (q : Rat) : RoundsTo q (roundHalfEven q) := by
  have below : (q.floor : Rat) ≤ q := Int.floor_le q
  have above : q < q.floor + 1 := Int.lt_floor_add_one q
  have down : |(q.floor : Rat) - q| = q - q.floor := by
    rw [abs_sub_comm, abs_of_nonneg (by linarith)]
  have up : |((q.floor + 1 : Int) : Rat) - q| = q.floor + 1 - q := by
    rw [Int.cast_add, Int.cast_one, abs_of_pos (by linarith)]
  simp only [roundHalfEven]
  split
  · next less =>
    constructor
    · rw [down]
      exact less.le
    · intro half
      rw [down] at half
      exact absurd half less.ne
  · split
    · next more =>
      constructor
      · rw [up]
        linarith
      · intro half
        rw [up] at half
        linarith
    · split
      · next even =>
        refine ⟨?_, fun _ => even⟩
        rw [down]
        linarith
      · next odd =>
        refine ⟨?_, fun _ => by omega⟩
        rw [up]
        linarith

/-- The greater of two rationals is not rounded to the lesser integer. -/
lemma RoundsTo.mono (here : RoundsTo p m) (there : RoundsTo q n) (le : p ≤ q) : m ≤ n := by
  by_contra less
  have next : (n : Rat) + 1 ≤ m := by exact_mod_cast Int.not_le.1 less
  have up := (abs_le.1 here.near).2
  have down := (abs_le.1 there.near).1
  -- Both lie exactly half way between two neighbours, of which one is odd.
  have half : |(m : Rat) - p| = 1 / 2 := by rw [abs_of_nonneg] <;> linarith
  have half' : |(n : Rat) - q| = 1 / 2 := by rw [abs_of_nonpos] <;> linarith
  have neighbour : (m : Rat) = n + 1 := by linarith
  have same : m = n + 1 := by exact_mod_cast neighbour
  have even := here.even half
  have even' := there.even half'
  omega

/-- A rational rounds to one integer. -/
lemma RoundsTo.unique (here : RoundsTo q m) (there : RoundsTo q n) : m = n :=
  le_antisymm (here.mono there le_rfl) (there.mono here le_rfl)

/-- An integer rounds to itself. -/
lemma roundsTo_intCast (n : Int) : RoundsTo n n := by
  have here : |(n : Rat) - n| = 0 := by rw [sub_self, abs_zero]
  constructor
  · rw [here]
    norm_num
  · intro half
    rw [here] at half
    norm_num at half

/-- Any other integer is at least a half away. -/
lemma RoundsTo.half_le_abs (here : RoundsTo q n) {k : Int} (other : k ≠ n) :
    1 / 2 ≤ |(k : Rat) - q| := by
  have apart : (1 : Rat) ≤ |(k : Rat) - n| := by exact_mod_cast Int.one_le_abs (sub_ne_zero.2 other)
  have sum := abs_sub_le (k : Rat) q n
  rw [abs_sub_comm q] at sum
  linarith [here.near]

/-- No integer is nearer. -/
lemma RoundsTo.le_abs (here : RoundsTo q n) (k : Int) : |(n : Rat) - q| ≤ |(k : Rat) - q| := by
  by_cases same : k = n
  · rw [same]
  · exact here.near.trans (here.half_le_abs same)

/-- Of two that are equally near, the even one is taken. -/
lemma RoundsTo.even_of_abs_eq (here : RoundsTo q n) {k : Int} (other : k ≠ n)
    (tie : |(k : Rat) - q| = |(n : Rat) - q|) : n % 2 = 0 :=
  here.even (here.near.antisymm (tie ▸ here.half_le_abs other))

end Chip8
