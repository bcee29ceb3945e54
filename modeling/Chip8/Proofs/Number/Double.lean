import Mathlib.Algebra.Order.Field.Power
import Mathlib.Tactic.Positivity
import Mathlib.Tactic.Ring
import Chip8.Number.Double
import Chip8.Proofs.Number.Rounding

/-!
# Correct rounding

`IsNearest` says what it is to be the number of the format nearest to a rational, with the even
mantissa taken half way, without a word of how it is found. The nearest number does not become less
when the rational grows (`IsNearest.mono`), and as there is another number between any two with even
mantissas (`InFormat.exists_between`) there is one value only (`IsNearest.unique`).

`nearest` finds it: at the exponent of a rational its mantissa has all its places
(`exponentFor_spec`), so rounding the mantissa to an integer finds the nearest among the multiples
of the last place, and what is not such a multiple is further away (`isNearest_of_pos`). Products
and integers are rounded once (`isNearest_mul`, `isNearest_ofInt`).
-/

namespace Chip8.Double

variable {d e : Double} {p q : Rat}

/-! ## Powers of two -/

/-- The limit of mantissas is the power of two with one place more than a mantissa has. -/
lemma limit_mul (x : Int) : (mantissaLimit : Rat) * 2 ^ x = 2 ^ (x + 53) := by
  rw [zpow_add₀ two_ne_zero, mul_comm]
  norm_num [mantissaLimit]

/-- The least full mantissa is the power of two of its first place. -/
lemma half_mul (x : Int) : ((mantissaLimit / 2 : Nat) : Rat) * 2 ^ x = 2 ^ (x + 52) := by
  rw [zpow_add₀ two_ne_zero, mul_comm]
  norm_num [mantissaLimit]

/-- A number lies between the power of two of its first place and the next one. -/
lemma log2_bounds {n : Nat} (pos : 0 < n) :
    (2 : Rat) ^ (n.log2 : Int) ≤ n ∧ (n : Rat) < 2 ^ (n.log2 + 1 : Int) := by
  have le := Nat.log2_self_le pos.ne'
  have lt := Nat.lt_log2_self (n := n)
  constructor
  · rw [zpow_natCast]
    exact_mod_cast le
  · exact_mod_cast lt

/-- The difference of the binary places of numerator and denominator tells a rational up to a factor
of two. -/
lemma estimate_bounds (pos : 0 < q) :
    (2 : Rat) ^ ((q.num.natAbs.log2 : Int) - q.den.log2 - 1) ≤ q ∧
      q < 2 ^ ((q.num.natAbs.log2 : Int) - q.den.log2 + 1) := by
  have num : 0 < q.num := Rat.num_pos.2 pos
  have value : (q.num.natAbs : Rat) / q.den = q := by
    have same : ((q.num.natAbs : Int) : Rat) = q.num := congrArg _ (Int.natAbs_of_nonneg num.le)
    rw [← Int.cast_natCast, same, Rat.num_div_den]
  obtain ⟨numLe, numLt⟩ := log2_bounds (Int.natAbs_pos.2 num.ne')
  obtain ⟨denLe, denLt⟩ := log2_bounds q.den_pos
  generalize (q.num.natAbs.log2 : Int) = a at numLe numLt ⊢
  generalize (q.den.log2 : Int) = b at denLe denLt ⊢
  have den : (0 : Rat) < q.den := by exact_mod_cast q.den_pos
  rw [← value]
  constructor
  · rw [le_div_iff₀ den]
    calc (2 : Rat) ^ (a - b - 1) * q.den
        ≤ 2 ^ (a - b - 1) * 2 ^ (b + 1) := by gcongr
      _ = 2 ^ a := by rw [← zpow_add₀ two_ne_zero]; congr 1; ring
      _ ≤ q.num.natAbs := numLe
  · rw [div_lt_iff₀ den]
    calc (q.num.natAbs : Rat)
        < 2 ^ (a + 1) := numLt
      _ = 2 ^ (a - b + 1) * 2 ^ b := by rw [← zpow_add₀ two_ne_zero]; congr 1; ring
      _ ≤ 2 ^ (a - b + 1) * q.den := by gcongr

/-- The exponent is chosen by the power of two that is next below the rational. -/
lemma exists_exponentFor (pos : 0 < q) :
    ∃ k : Int, exponentFor q = max (k - 52) leastExponent ∧ 2 ^ k ≤ q ∧ q < 2 ^ (k + 1) := by
  obtain ⟨atLeast, less⟩ := estimate_bounds pos
  by_cases below : q < 2 ^ ((q.num.natAbs.log2 : Int) - q.den.log2)
  · refine ⟨(q.num.natAbs.log2 : Int) - q.den.log2 - 1, ?_, atLeast, ?_⟩
    · rw [exponentFor, if_pos below]
      rfl
    · rw [sub_add_cancel]
      exact below
  · refine ⟨(q.num.natAbs.log2 : Int) - q.den.log2, ?_, not_lt.1 below, less⟩
    rw [exponentFor, if_neg below]
    rfl

/-- At the exponent of a rational its mantissa is within the limit, and it has all its places unless
the exponent is the least one. -/
lemma exponentFor_spec (pos : 0 < q) :
    leastExponent ≤ exponentFor q ∧ q < mantissaLimit * 2 ^ exponentFor q ∧
      (exponentFor q = leastExponent ∨ (mantissaLimit / 2 : Nat) * 2 ^ exponentFor q ≤ q) := by
  obtain ⟨k, exponent, le, lt⟩ := exists_exponentFor pos
  rw [exponent, limit_mul, half_mul]
  refine ⟨le_max_right _ _, ?_, ?_⟩
  · refine lt.trans_le (zpow_le_zpow_right₀ one_le_two ?_)
    omega
  · by_cases least : k - 52 ≤ leastExponent
    · exact .inl (max_eq_right least)
    · refine .inr (le_trans (zpow_le_zpow_right₀ one_le_two ?_) le)
      omega

/-! ## The numbers of the format -/

/-- The mantissa of a finite number. -/
def mantissa : Double → Nat
  | finite _ mantissa _ => mantissa
  | _ => 0

/-- The number with the other sign. -/
def opposite : Double → Double
  | finite negative mantissa exponent => finite (!negative) mantissa exponent
  | infinite negative => infinite (!negative)
  | nan => nan

/-- The finite numbers of the format. -/
inductive InFormat : Double → Prop where
  | finite (negative : Bool) {mantissa : Nat} {exponent : Int} (limit : mantissa < mantissaLimit)
      (least : leastExponent ≤ exponent) (greatest : exponent ≤ greatestExponent)
      (full : exponent = leastExponent ∨ mantissaLimit / 2 ≤ mantissa) :
        InFormat (finite negative mantissa exponent)

/-- The number with the other sign has the opposite value. -/
lemma toRat_opposite (d : Double) : d.opposite.toRat = -d.toRat := by
  rcases d with ⟨_ | _, m, y⟩ | ⟨_ | _⟩ | _
  · rfl
  · exact (neg_neg _).symm
  · rfl
  · exact (neg_neg _).symm
  · exact neg_zero.symm

/-- It has the same mantissa. -/
lemma mantissa_opposite (d : Double) : d.opposite.mantissa = d.mantissa := by
  cases d with
  | _ => rfl

/-- The other sign taken twice is the sign itself. -/
lemma opposite_opposite (d : Double) : d.opposite.opposite = d := by
  cases d with
  | finite negative m y => rw [opposite, opposite, Bool.not_not]
  | infinite negative => rw [opposite, opposite, Bool.not_not]
  | nan => rfl

/-- The format has for every number the one with the other sign. -/
lemma InFormat.opposite (inFormat : d.InFormat) : d.opposite.InFormat := by
  cases inFormat with
  | finite negative limit least greatest full => exact .finite (!negative) limit least greatest full

/-- Both zeros are in the format. -/
lemma inFormat_zero (negative : Bool) : (zero negative).InFormat :=
  .finite negative (by decide) le_rfl (by decide) (.inl rfl)

/-- Both zeros have the value zero. -/
lemma toRat_zero (negative : Bool) : (zero negative).toRat = 0 := by
  have magnitude : (zero negative).magnitude = 0 := by
    rw [zero, Double.magnitude, Nat.cast_zero, zero_mul]
  rw [toRat, magnitude, neg_zero, ite_self]

/-- The size of a finite number is its mantissa at its exponent. -/
lemma abs_toRat (negative : Bool) (m : Nat) (y : Int) :
    |(finite negative m y).toRat| = m * 2 ^ y := by
  have nonneg : (0 : Rat) ≤ m * 2 ^ y := by positivity
  cases negative with
  | false => exact abs_of_nonneg nonneg
  | true => exact (abs_neg _).trans (abs_of_nonneg nonneg)

/-- A number of the format is a multiple of a given power of two, or it has more places and is below
the full mantissas at that power. -/
lemma InFormat.multiple_or_less (inFormat : d.InFormat) (x : Int) :
    (∃ k : Int, d.toRat = k * 2 ^ x ∧ (d.mantissa % 2 = 0 → k % 2 = 0)) ∨
      leastExponent < x ∧ |d.toRat| < (mantissaLimit / 2 : Nat) * 2 ^ x := by
  cases inFormat with
  | @finite negative m y limit least greatest full =>
    by_cases wider : x ≤ y
    · obtain ⟨j, rfl⟩ := Int.exists_add_of_le wider
      have scaled : (m : Rat) * 2 ^ (x + j : Int) = (m * 2 ^ j : Int) * 2 ^ x := by
        rw [zpow_add₀ two_ne_zero, zpow_natCast]
        push_cast
        ring
      have even (even : m % 2 = 0) : (m * 2 ^ j : Int) % 2 = 0 := by
        rw [Int.mul_emod, show (m : Int) % 2 = 0 by exact_mod_cast even, zero_mul]
        rfl
      refine .inl ?_
      cases negative with
      | false => exact ⟨_, scaled, even⟩
      | true =>
        refine ⟨-(m * 2 ^ j), ?_, fun evenMantissa => ?_⟩
        · rw [Int.cast_neg, neg_mul, ← scaled]
          rfl
        · rw [Int.neg_emod_two]
          exact even evenMantissa
    · refine .inr ⟨by omega, ?_⟩
      rw [abs_toRat]
      calc (m : Rat) * 2 ^ y < mantissaLimit * 2 ^ y := by gcongr
        _ = 2 ^ (y + 53) := limit_mul y
        _ ≤ 2 ^ (x + 52) := zpow_le_zpow_right₀ one_le_two (by omega)
        _ = (mantissaLimit / 2 : Nat) * 2 ^ x := (half_mul x).symm

/-- Between two numbers that are not negative and have even mantissas there is the one next above
the smaller. -/
lemma InFormat.exists_between_of_nonneg (here : d.InFormat) (there : e.InFormat)
    (even : d.mantissa % 2 = 0) (even' : e.mantissa % 2 = 0) (nonneg : 0 ≤ d.toRat)
    (lt : d.toRat < e.toRat) :
    ∃ c : Double, c.InFormat ∧ d.toRat < c.toRat ∧ c.toRat < e.toRat := by
  cases here with
  | @finite negative m y limit least greatest full =>
    have unit : (0 : Rat) < 2 ^ y := by positivity
    have value : (Double.finite negative m y).toRat = m * 2 ^ y := by
      rw [← abs_of_nonneg nonneg, abs_toRat]
    have next : (Double.finite false (m + 1) y).toRat = (m + 1 : Nat) * 2 ^ y := rfl
    replace even : m % 2 = 0 := even
    rw [value] at lt ⊢
    refine ⟨.finite false (m + 1) y, .finite false ?_ least greatest
      (full.imp_right (Nat.le_succ_of_le ·)), ?_, ?_⟩
    · rw [mantissaLimit] at limit ⊢
      omega
    · rw [next]
      exact mul_lt_mul_of_pos_right (by exact_mod_cast Nat.lt_succ_self m) unit
    · rcases there.multiple_or_less y with ⟨k, multiple, parity⟩ | ⟨more, less⟩
      · rw [multiple] at lt ⊢
        have above : (m : Int) < k := by exact_mod_cast lt_of_mul_lt_mul_right lt unit.le
        have evenMultiple := parity even'
        rw [next]
        refine mul_lt_mul_of_pos_right ?_ unit
        exact_mod_cast (show (m + 1 : Int) < k by omega)
      · have half : ((mantissaLimit / 2 : Nat) : Rat) ≤ m := by
          exact_mod_cast full.resolve_left more.ne'
        have full := mul_le_mul_of_nonneg_right half unit.le
        linarith [le_abs_self e.toRat]

/-- Between two numbers of the format with even mantissas there is another one. -/
lemma InFormat.exists_between (here : d.InFormat) (there : e.InFormat) (even : d.mantissa % 2 = 0)
    (even' : e.mantissa % 2 = 0) (lt : d.toRat < e.toRat) :
    ∃ c : Double, c.InFormat ∧ d.toRat < c.toRat ∧ c.toRat < e.toRat := by
  by_cases nonneg : 0 ≤ d.toRat
  · exact here.exists_between_of_nonneg there even even' nonneg lt
  · by_cases pos : 0 < e.toRat
    · refine ⟨zero false, inFormat_zero false, ?_, ?_⟩
      · rw [toRat_zero]
        exact not_le.1 nonneg
      · rw [toRat_zero]
        exact pos
    · -- Both are on the other side of zero.
      obtain ⟨c, inFormat, below, above⟩ := there.opposite.exists_between_of_nonneg here.opposite
        (e.mantissa_opposite ▸ even') (d.mantissa_opposite ▸ even)
        (by rw [toRat_opposite]; linarith) (by rw [toRat_opposite, toRat_opposite]; linarith)
      rw [toRat_opposite] at below above
      refine ⟨c.opposite, inFormat.opposite, ?_, ?_⟩
      · rw [toRat_opposite]
        linarith
      · rw [toRat_opposite]
        linarith

/-! ## The nearest number -/

/-- A number is the one of the format nearest to a rational, and of two equally near the one with
the even mantissa. -/
structure IsNearest (d : Double) (q : Rat) : Prop where
  inFormat : d.InFormat
  nearest : ∀ e : Double, e.InFormat → |d.toRat - q| ≤ |e.toRat - q|
  even : ∀ e : Double, e.InFormat → |e.toRat - q| = |d.toRat - q| →
    e.toRat = d.toRat ∨ d.mantissa % 2 = 0

/-- A number of the format below a rational is not above its nearest one. -/
lemma IsNearest.le_of_le (nearest : d.IsNearest q) (inFormat : e.InFormat) (le : e.toRat ≤ q) :
    e.toRat ≤ d.toRat := by
  have near := nearest.nearest e inFormat
  rw [abs_of_nonpos (sub_nonpos.2 le)] at near
  linarith [neg_abs_le (d.toRat - q)]

/-- A number of the format above a rational is not below its nearest one. -/
lemma IsNearest.ge_of_ge (nearest : d.IsNearest q) (inFormat : e.InFormat) (ge : q ≤ e.toRat) :
    d.toRat ≤ e.toRat := by
  have near := nearest.nearest e inFormat
  rw [abs_of_nonneg (sub_nonneg.2 ge)] at near
  linarith [le_abs_self (d.toRat - q)]

/-- The nearest number has the sign of the rational, if the rational is not negative. -/
lemma IsNearest.nonneg (nearest : d.IsNearest q) (nonneg : 0 ≤ q) : 0 ≤ d.toRat := by
  have le := nearest.le_of_le (inFormat_zero false) (by rw [toRat_zero]; exact nonneg)
  rwa [toRat_zero] at le

/-- The nearest number has the sign of the rational, if the rational is not positive. -/
lemma IsNearest.nonpos (nearest : d.IsNearest q) (nonpos : q ≤ 0) : d.toRat ≤ 0 := by
  have le := nearest.ge_of_ge (inFormat_zero false) (by rw [toRat_zero]; exact nonpos)
  rwa [toRat_zero] at le

/-- Of two nearest numbers neither is greater. -/
lemma IsNearest.le (here : d.IsNearest q) (there : e.IsNearest q) : d.toRat ≤ e.toRat := by
  by_contra more
  have lt := not_le.1 more
  have near := here.nearest e there.inFormat
  have near' := there.nearest d here.inFormat
  have even := (here.even e there.inFormat (near'.antisymm near)).resolve_left lt.ne
  have even' := (there.even d here.inFormat (near.antisymm near')).resolve_left lt.ne'
  -- What lies between them would be nearer than either.
  obtain ⟨c, inFormat, above, below⟩ := there.inFormat.exists_between here.inFormat even' even lt
  have nearer : |c.toRat - q| < |d.toRat - q| := by
    refine abs_lt.2 ⟨?_, ?_⟩
    · linarith [neg_abs_le (e.toRat - q)]
    · linarith [le_abs_self (d.toRat - q)]
  exact absurd (here.nearest c inFormat) (not_le.2 nearer)

/-- The nearest number does not become less when the rational grows. -/
lemma IsNearest.mono (here : d.IsNearest p) (there : e.IsNearest q) (le : p ≤ q) :
    d.toRat ≤ e.toRat := by
  rcases le.eq_or_lt with rfl | lt
  · exact here.le there
  · by_contra less
    have near := here.nearest e there.inFormat
    have near' := there.nearest d here.inFormat
    have apart : 0 < (d.toRat - e.toRat) * (q - p) := mul_pos (by linarith) (by linarith)
    rw [← sq_le_sq] at near near'
    linarith

/-- A rational has one nearest value. -/
lemma IsNearest.unique (here : d.IsNearest q) (there : e.IsNearest q) : d.toRat = e.toRat :=
  (here.le there).antisymm (there.le here)

/-- With the other sign, a nearest number is the nearest to the opposite rational. -/
lemma IsNearest.opposite (nearest : d.IsNearest q) : d.opposite.IsNearest (-q) := by
  have mirrored (e : Double) : |e.opposite.toRat - q| = |e.toRat - -q| := by
    rw [toRat_opposite, ← abs_neg (-e.toRat - q)]
    congr 1
    ring
  have here : |d.opposite.toRat - -q| = |d.toRat - q| := by rw [← mirrored, opposite_opposite]
  constructor
  · exact nearest.inFormat.opposite
  · intro e inFormat
    rw [here, ← mirrored]
    exact nearest.nearest e.opposite inFormat.opposite
  · intro e inFormat tie
    rw [here, ← mirrored] at tie
    rw [mantissa_opposite, toRat_opposite, ← neg_eq_iff_eq_neg, ← toRat_opposite]
    exact nearest.even e.opposite inFormat.opposite tie

/-! ## Finding it -/

variable {negative s : Bool} {m : Nat} {x y : Int}

/-- A mantissa at the limit is written with one place less, at the next exponent. -/
lemma exists_carried (atMost : m ≤ mantissaLimit) (least : leastExponent ≤ x)
    (full : x = leastExponent ∨ mantissaLimit / 2 ≤ m) :
    ∃ m' x', (if m = mantissaLimit then (mantissaLimit / 2, x + 1) else (m, x)) = (m', x') ∧
      (m' : Rat) * 2 ^ x' = m * 2 ^ x ∧ (m % 2 = 0 → m' % 2 = 0) ∧
      m' < mantissaLimit ∧ leastExponent ≤ x' ∧ (x' = leastExponent ∨ mantissaLimit / 2 ≤ m') := by
  by_cases carry : m = mantissaLimit
  · refine ⟨_, _, if_pos carry, ?_, fun _ => by decide, by decide, by omega, .inr le_rfl⟩
    rw [half_mul, carry, limit_mul]
    congr 1
    ring
  · exact ⟨_, _, if_neg carry, rfl, id, by omega, least, full⟩

/-- The mantissa of the number nearest to a positive rational is the rational rounded at its
exponent, one place less if the rounding takes it to the limit. -/
lemma nearest_finite (pos : 0 < q) (result : nearest negative q = finite s m y) :
    s = negative ∧ (finite s m y).InFormat ∧
      ∃ r : Int, RoundsTo (q / 2 ^ exponentFor q) r ∧ (m : Rat) * 2 ^ y = r * 2 ^ exponentFor q ∧
        (r % 2 = 0 → m % 2 = 0) := by
  obtain ⟨least, less, full⟩ := exponentFor_spec pos
  have unit : (0 : Rat) < 2 ^ exponentFor q := by positivity
  have rounds := roundsTo_roundHalfEven (q / 2 ^ exponentFor q)
  rw [nearest] at result
  generalize exponentFor q = x at *
  generalize roundHalfEven (q / 2 ^ x) = r at *
  have nonneg : ((0 : Int) : Rat) ≤ q / 2 ^ x := by rw [Int.cast_zero]; positivity
  obtain ⟨n, rfl⟩ := Int.eq_ofNat_of_zero_le ((roundsTo_intCast 0).mono rounds nonneg)
  have atMost : n ≤ mantissaLimit := by
    refine Int.ofNat_le.1 (rounds.mono (roundsTo_intCast _) ?_)
    rw [div_le_iff₀ unit]
    exact_mod_cast less.le
  have full' : x = leastExponent ∨ mantissaLimit / 2 ≤ n := by
    refine full.imp_right fun half => Int.ofNat_le.1 ((roundsTo_intCast _).mono rounds ?_)
    rw [le_div_iff₀ unit]
    exact_mod_cast half
  obtain ⟨m', x', carried, value, even, limit, least', full''⟩ := exists_carried atMost least full'
  rw [Int.toNat_natCast, carried] at result
  simp only [if_neg pos.ne'] at result
  split at result
  · cases result
  · next fits =>
    cases result
    refine ⟨rfl, .finite _ limit least' (not_lt.1 fits) full'', n, rounds, ?_, fun same => even ?_⟩
    · rw [value, Int.cast_natCast]
    · exact_mod_cast same

/-- A minus sign makes no difference to how a number is found. -/
lemma nearest_true (q : Rat) : nearest true q = (nearest false q).opposite := by
  simp only [nearest, apply_ite opposite]
  rfl

/-- Distances may be measured in units. -/
lemma abs_mul_sub {u : Rat} (pos : 0 < u) (k q : Rat) : |k * u - q| = |k - q / u| * u := by
  rw [← abs_of_pos pos, ← abs_mul, abs_of_pos pos, sub_mul, div_mul_cancel₀ _ pos.ne']

/-- A positive rational is taken to its nearest number, unless that is infinite. -/
lemma isNearest_of_pos (pos : 0 < q) (result : nearest false q = finite s m y) :
    (finite s m y).IsNearest q := by
  obtain ⟨rfl, inFormat, r, rounds, value, even⟩ := nearest_finite pos result
  obtain ⟨-, -, full⟩ := exponentFor_spec pos
  have unit : (0 : Rat) < 2 ^ exponentFor q := by positivity
  generalize exponentFor q = x at *
  have toRat : (finite false m y).toRat = r * 2 ^ x := value
  -- In units of the last place the distances are those of integers.
  have scaled (k : Int) := abs_mul_sub unit k q
  -- What is not a multiple of the last place is further away than the least full mantissa.
  have further (e : Double) (least : leastExponent < x)
      (less : |e.toRat| < (mantissaLimit / 2 : Nat) * 2 ^ x) :
      |(finite false m y).toRat - q| < |e.toRat - q| := by
    have half : ((mantissaLimit / 2 : Nat) : Rat) * 2 ^ x ≤ q := full.resolve_left least.ne'
    calc |(finite false m y).toRat - q|
        = |(r : Rat) - q / 2 ^ x| * 2 ^ x := by rw [toRat, scaled]
      _ ≤ |(((mantissaLimit / 2 : Nat) : Int) : Rat) - q / 2 ^ x| * 2 ^ x :=
          mul_le_mul_of_nonneg_right (rounds.le_abs _) unit.le
      _ = q - (mantissaLimit / 2 : Nat) * 2 ^ x := by
          rw [← scaled, Int.cast_natCast, abs_of_nonpos (by linarith), neg_sub]
      _ < q - |e.toRat| := by linarith
      _ ≤ |e.toRat - q| := by
          rw [abs_sub_comm]
          linarith [le_abs_self e.toRat, le_abs_self (q - e.toRat)]
  refine ⟨inFormat, ?_, ?_⟩
  · intro e other
    rcases other.multiple_or_less x with ⟨k, multiple, -⟩ | ⟨least, less⟩
    · rw [toRat, multiple, scaled, scaled]
      exact mul_le_mul_of_nonneg_right (rounds.le_abs k) unit.le
    · exact (further e least less).le
  · intro e other tie
    rcases other.multiple_or_less x with ⟨k, multiple, -⟩ | ⟨least, less⟩
    · rw [toRat, multiple, scaled, scaled] at tie
      by_cases same : k = r
      · rw [toRat, multiple, same]
        exact .inl rfl
      · exact .inr (even (rounds.even_of_abs_eq same (mul_right_cancel₀ unit.ne' tie)))
    · exact absurd tie (further e least less).ne'

/-- Zero is the nearest number to itself. -/
lemma isNearest_zero (negative : Bool) : (zero negative).IsNearest 0 := by
  have here : |(zero negative).toRat - 0| = 0 := by rw [toRat_zero, sub_zero, abs_zero]
  refine ⟨inFormat_zero negative, ?_, fun _ _ _ => .inr rfl⟩
  intro e _
  rw [here]
  exact abs_nonneg _

/-- A rational that is not negative is taken to its nearest number, unless that is infinite. -/
lemma isNearest_of_nonneg (nonneg : 0 ≤ q) (result : nearest false q = finite s m y) :
    (finite s m y).IsNearest q := by
  rcases nonneg.eq_or_lt with rfl | pos
  · rw [← result]
    exact isNearest_zero false
  · exact isNearest_of_pos pos result

/-- A rational with a sign is taken to its nearest number, unless that is infinite. -/
lemma isNearest_nearest (nonneg : 0 ≤ q) (result : nearest negative q = finite s m y) :
    (finite s m y).IsNearest (if negative then -q else q) := by
  cases negative with
  | false => exact isNearest_of_nonneg nonneg result
  | true =>
    rw [nearest_true] at result
    have mirrored : nearest false q = finite (!s) m y := by
      rw [← (nearest false q).opposite_opposite, result]; rfl
    have nearest := (isNearest_of_nonneg nonneg mirrored).opposite
    rw [opposite, Bool.not_not] at nearest
    exact nearest

/-- No number has a negative distance from zero. -/
lemma magnitude_nonneg (d : Double) : 0 ≤ d.magnitude := by
  cases d with
  | finite negative m y => exact mul_nonneg (Nat.cast_nonneg m) (zpow_nonneg zero_le_two y)
  | infinite negative => exact le_rfl
  | nan => exact le_rfl

/-- Signs and sizes are multiplied apart. -/
lemma toRat_mul_toRat (a b : Double) :
    a.toRat * b.toRat =
      if a.negative != b.negative then -(a.magnitude * b.magnitude)
      else a.magnitude * b.magnitude := by
  rw [toRat, toRat]
  cases a.negative with
  | false =>
    cases b.negative with
    | false => rfl
    | true => exact mul_neg _ _
  | true =>
    cases b.negative with
    | false => exact neg_mul _ _
    | true => exact neg_mul_neg _ _

/-- A product is finite only if its factors are, and then it is the number nearest to the product of
their values. -/
lemma nearest_of_mul {a b : Double} (result : a.mul b = finite s m y) :
    (∃ s m y, a = finite s m y) ∧
      nearest (a.negative != b.negative) (a.magnitude * b.magnitude) = finite s m y := by
  rw [mul.eq_def] at result
  split at result
  · cases result
  · cases result
  · exact ⟨⟨_, _, _, rfl⟩, result⟩
  · split at result
    · cases result
    · cases result

/-- A product is rounded once. -/
lemma isNearest_mul {a b : Double} (result : a.mul b = finite s m y) :
    (finite s m y).IsNearest (a.toRat * b.toRat) := by
  obtain ⟨-, nearest⟩ := nearest_of_mul result
  rw [toRat_mul_toRat]
  exact isNearest_nearest (mul_nonneg (magnitude_nonneg _) (magnitude_nonneg _)) nearest

/-- Every rational has a nearest number or is taken to an infinity. -/
lemma nearest_ne_nan (negative : Bool) (q : Rat) : nearest negative q ≠ nan := by
  have branches {c : Prop} [Decidable c] {a b : Double} (left : a ≠ nan) (right : b ≠ nan) :
      (if c then a else b) ≠ nan := by
    split
    · exact left
    · exact right
  rw [nearest]
  exact branches nofun (branches nofun nofun)

/-- An integer that is in range is taken to a finite number. -/
lemma nearest_of_ofInt {n : Int} (result : ofInt n = .ok d) :
    ∃ s m y, d = finite s m y ∧ nearest (n < 0) n.natAbs = finite s m y := by
  rw [ofInt] at result
  cases nearest : nearest (n < 0) n.natAbs with
  | infinite negative =>
    rw [nearest] at result
    cases result
  | nan => exact absurd nearest (nearest_ne_nan _ _)
  | finite s m y =>
    rw [nearest] at result
    exact ⟨s, m, y, (Except.ok.inj result).symm, rfl⟩

/-- An integer in the format is rounded once. -/
lemma isNearest_ofInt {n : Int} (result : ofInt n = .ok d) : d.IsNearest n := by
  obtain ⟨s, m, y, rfl, nearest⟩ := nearest_of_ofInt result
  have sign : (n : Rat) = if (n < 0 : Bool) then -(n.natAbs : Rat) else n.natAbs := by
    rw [Nat.cast_natAbs]
    split
    · next less => rw [abs_of_neg (of_decide_eq_true less), Int.cast_neg, neg_neg]
    · next atLeast => rw [abs_of_nonneg (by simpa using atLeast)]
  rw [sign]
  exact isNearest_nearest (Nat.cast_nonneg _) nearest

/-- A rational from one on is not rounded down to less than half of it. -/
lemma half_le_nearest (one : 1 ≤ q) (result : nearest false q = finite s m y) :
    q / 2 ≤ (finite s m y).toRat := by
  have pos : 0 < q := one_pos.trans_le one
  obtain ⟨rfl, -, r, rounds, value, -⟩ := nearest_finite pos result
  obtain ⟨-, -, full⟩ := exponentFor_spec pos
  generalize exponentFor q = x at *
  have unit : (0 : Rat) < 2 ^ x := by positivity
  have small : (2 : Rat) ^ x ≤ q := by
    rcases full with least | half
    · refine le_trans (zpow_le_one_of_nonpos₀ one_le_two ?_) one
      rw [least]
      decide
    · refine le_trans (le_mul_of_one_le_left unit.le ?_) half
      norm_num [mantissaLimit]
  have near := mul_le_mul_of_nonneg_right (abs_le.1 rounds.near).1 unit.le
  rw [sub_mul, div_mul_cancel₀ _ unit.ne'] at near
  have toRat : (finite false m y).toRat = r * 2 ^ x := value
  linarith

/-- A positive integer is not rounded down to less than half of it. -/
lemma half_le_ofInt {n : Int} (pos : 1 ≤ n) (result : ofInt n = .ok d) :
    (n : Rat) / 2 ≤ d.toRat := by
  obtain ⟨s, m, y, rfl, nearest⟩ := nearest_of_ofInt result
  obtain ⟨k, rfl⟩ := Int.eq_ofNat_of_zero_le (by omega : 0 ≤ n)
  have positive : decide ((k : Int) < 0) = false := decide_eq_false (by omega)
  rw [positive] at nearest
  exact half_le_nearest (by exact_mod_cast pos) nearest

end Chip8.Double
