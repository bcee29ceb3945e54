import Chip8.Proofs.Number.Double
import Chip8.Proofs.Pacer.Batching
import Chip8.Proofs.Pacer.Count

/-!
# The steps that a time covers

Of the product of time and rate `HasProduct` says no more than that it is rounded once. This is
enough to tell the steps of a tick (`stepsFor_of_rounds`), and that they do not become less when the
time grows: a time that is not positive has a product that is not (`HasProduct.nonpos`), a time of a
second or more has at least half the rate (`HasProduct.half_le`), which is more than a tick may
cover, and in between there are floating-point numbers only.
-/

namespace Chip8

/-! ## Products of time and rate -/

namespace Quantity

/-- The value of a whole or a finite number. -/
def toRat : Quantity → Rat
  | whole n => n
  | real d => d.toRat

/-- A number times a whole rate. If it is floating-point, so is the product, and the rate is taken
to its nearest number first. -/
inductive HasProduct (rate : Int) : Quantity → Rat → Prop where
  | whole (n : Int) : HasProduct rate (.whole n) (n * rate : Int)
  | real {d c x : Double} (finite : d.isFinite = true) (near : c.IsNearest rate)
      (rounded : x.IsNearest (d.toRat * c.toRat)) : HasProduct rate (.real d) x.toRat

variable {elapsed : Quantity} {rate : Int} {x y : Rat}

/-- A floating-point number with a finite product is finite, and the rate has a nearest number. -/
lemma exists_mul {d : Double} (finite : (real d).timesFinite (.whole rate) = true) :
    d.isFinite = true ∧ ∃ c s m e, Double.ofInt rate = .ok c ∧ d.mul c = .finite s m e := by
  cases rated : Double.ofInt rate with
  | error e => simp [timesFinite, toDouble, rated] at finite
  | ok c =>
    have product : (d.mul c).isFinite = true := by simpa [timesFinite, toDouble, rated] using finite
    cases multiplied : d.mul c with
    | finite s m e =>
      obtain ⟨⟨s', m', e', rfl⟩, -⟩ := Double.nearest_of_mul multiplied
      exact ⟨rfl, c, s, m, e, rfl, multiplied⟩
    | _ =>
      rw [multiplied] at product
      cases product

/-- What is computed is the product, rounded to an integer. -/
lemma exists_hasProduct (finite : elapsed.timesFinite (.whole rate) = true) :
    ∃ x n, elapsed.HasProduct rate x ∧ RoundsTo x n ∧
    elapsed.roundedTimes (.whole rate) = .ok n := by
  cases elapsed with
  | whole n => exact ⟨_, n * rate, .whole n, roundsTo_intCast _, rfl⟩
  | real d =>
    obtain ⟨isFinite, c, s, m, e, rated, multiplied⟩ := exists_mul finite
    refine ⟨_, _, .real isFinite (Double.isNearest_ofInt rated) (Double.isNearest_mul multiplied),
      roundsTo_roundHalfEven _, ?_⟩
    show (do let c ← Double.ofInt rate; (d.mul c).round) = _
    rw [rated]
    show (d.mul c).round = _
    rw [multiplied]
    rfl

/-- A time has one product with a rate. -/
lemma HasProduct.unique (here : elapsed.HasProduct rate x) (there : elapsed.HasProduct rate y) :
    x = y := by
  cases here with
  | whole n =>
    cases there with
    | whole => rfl
  | real finite near rounded =>
    cases there with
    | real finite' near' rounded' =>
      rw [near.unique near'] at rounded
      exact rounded.unique rounded'

/-- A time that is not positive has a product that is not. -/
lemma HasProduct.nonpos (product : elapsed.HasProduct rate x) (pos : 0 < rate)
    (time : elapsed.toRat ≤ 0) : x ≤ 0 := by
  have rateNonneg : (0 : Rat) ≤ rate := by exact_mod_cast pos.le
  cases product with
  | whole n =>
    rw [Int.cast_mul]
    exact mul_nonpos_of_nonpos_of_nonneg time rateNonneg
  | real finite near rounded =>
    exact rounded.nonpos (mul_nonpos_of_nonpos_of_nonneg time (near.nonneg rateNonneg))

/-- A time of a second or more has a product of at least half the rate. -/
lemma HasProduct.half_le (product : elapsed.HasProduct rate x) (pos : 0 < rate)
    (finite : elapsed.timesFinite (.whole rate) = true) (time : 1 ≤ elapsed.toRat) :
    (rate : Rat) / 2 ≤ x := by
  have positive : (0 : Rat) < rate := by exact_mod_cast pos
  cases product with
  | whole n =>
    have factor : (1 : Rat) ≤ n := time
    have whole : (rate : Rat) ≤ n * rate := le_mul_of_one_le_left positive.le factor
    rw [Int.cast_mul]
    linarith
  | @real d c x _ near rounded =>
    obtain ⟨-, c', -, -, -, rated, -⟩ := exists_mul finite
    have half : (rate : Rat) / 2 ≤ c.toRat := by
      rw [near.unique (Double.isNearest_ofInt rated)]
      exact Double.half_le_ofInt pos rated
    refine half.trans (rounded.le_of_le near.inFormat (le_mul_of_one_le_left ?_ time))
    linarith

/-- Among floating-point numbers the product does not become less when the time grows. -/
lemma HasProduct.mono {d e : Double} (here : (Quantity.real d).HasProduct rate x)
    (there : (Quantity.real e).HasProduct rate y) (pos : 0 < rate) (time : d.toRat ≤ e.toRat) :
    x ≤ y := by
  have rateNonneg : (0 : Rat) ≤ rate := by exact_mod_cast pos.le
  cases here with
  | real finite near rounded =>
    cases there with
    | real finite' near' rounded' =>
      rw [← near.unique near'] at rounded'
      exact rounded.mono rounded' (mul_le_mul_of_nonneg_right time (near.nonneg rateNonneg))

end Quantity

/-! ## The steps of a tick -/

namespace Pacer

variable {p : Pacer} {elapsed a b : Quantity} {rate n : Int} {x : Rat}

/-- How many steps a time covers, at a rate that counts them in whole numbers. -/
def stepCount (p : Pacer) (elapsed : Quantity) : Int :=
  match p.stepsFor elapsed with
  | .ok (.whole n) => n
  | _ => 0

/-- The steps of a tick are the product rounded to an integer, brought within the bounds. -/
lemma stepsFor_of_rounds (whole : p.cpuHz = .whole rate)
    (finite : elapsed.timesFinite p.cpuHz = true) (product : elapsed.HasProduct rate x)
    (rounds : RoundsTo x n) :
    p.stepsFor elapsed = .ok (.whole (min (max 1 (rate / 10)) (max 1 n))) := by
  rw [whole] at finite
  obtain ⟨x', n', product', rounds', computed⟩ := Quantity.exists_hasProduct finite
  rw [product'.unique product] at rounds'
  rw [stepsFor, whole, computed, rounds'.unique rounds]
  show Except.ok (p.clamp n) = _
  rw [clamp, maxSteps, whole]

/-- The number of steps is the product rounded to an integer, brought within the bounds. -/
lemma stepCount_of_rounds (whole : p.cpuHz = .whole rate)
    (finite : elapsed.timesFinite p.cpuHz = true) (product : elapsed.HasProduct rate x)
    (rounds : RoundsTo x n) :
    p.stepCount elapsed = min (max 1 (rate / 10)) (max 1 n) := by
  rw [stepCount, stepsFor_of_rounds whole finite product rounds]

/-- A whole rate of a pacer is positive. -/
lemma rate_pos (whole : p.cpuHz = .whole rate) : 0 < rate := by
  have positive := p.cpuHz_pos
  rw [whole] at positive
  exact not_le.1 (of_decide_eq_false positive)

/-- A time that is not positive covers one step all the same. -/
lemma stepCount_of_nonpos (whole : p.cpuHz = .whole rate)
    (finite : elapsed.timesFinite p.cpuHz = true) (time : elapsed.toRat ≤ 0) :
    p.stepCount elapsed = 1 := by
  obtain ⟨x, n, product, rounds, -⟩ := Quantity.exists_hasProduct (whole ▸ finite)
  have nonpos : x ≤ (0 : Int) := by exact_mod_cast product.nonpos (rate_pos whole) time
  have rounded := rounds.mono (roundsTo_intCast 0) nonpos
  rw [stepCount_of_rounds whole finite product rounds]
  omega

/-- A time of a second or more covers more steps than a tick may have. -/
lemma stepCount_of_one_le (whole : p.cpuHz = .whole rate)
    (finite : elapsed.timesFinite p.cpuHz = true) (time : 1 ≤ elapsed.toRat) :
    p.stepCount elapsed = max 1 (rate / 10) := by
  have pos := rate_pos whole
  obtain ⟨x, n, product, rounds, -⟩ := Quantity.exists_hasProduct (whole ▸ finite)
  have half := product.half_le pos (whole ▸ finite) time
  have tenth : ((rate / 10 : Int) : Rat) ≤ rate / 2 := by
    rw [le_div_iff₀ two_pos]
    exact_mod_cast (show rate / 10 * 2 ≤ rate by omega)
  have rounded := (roundsTo_intCast (rate / 10)).mono rounds (tenth.trans half)
  rw [stepCount_of_rounds whole finite product rounds]
  omega

/-- A greater time does not cover fewer steps. -/
lemma stepCount_mono (whole : p.cpuHz = .whole rate) (finite : a.timesFinite p.cpuHz = true)
    (finite' : b.timesFinite p.cpuHz = true) (time : a.toRat ≤ b.toRat) :
    p.stepCount a ≤ p.stepCount b := by
  obtain ⟨x, n, product, rounds, -⟩ := Quantity.exists_hasProduct (whole ▸ finite)
  obtain ⟨y, k, product', rounds', -⟩ := Quantity.exists_hasProduct (whole ▸ finite')
  have count := stepCount_of_rounds whole finite product rounds
  have count' := stepCount_of_rounds whole finite' product' rounds'
  by_cases first : a.toRat ≤ 0
  · rw [stepCount_of_nonpos whole finite first, count']
    omega
  by_cases last : 1 ≤ b.toRat
  · rw [stepCount_of_one_le whole finite' last, count]
    omega
  -- No whole number lies between zero and one, so both are floating-point.
  have fraction (q : Quantity) (pos : 0 < q.toRat) (less : q.toRat < 1) : ∃ d, q = .real d := by
    cases q with
    | real d => exact ⟨d, rfl⟩
    | whole m =>
      have above : 0 < m := by exact_mod_cast (show (0 : Rat) < m from pos)
      have below : m < 1 := by exact_mod_cast (show (m : Rat) < 1 from less)
      omega
  rw [not_le] at first last
  obtain ⟨d, rfl⟩ := fraction a first (time.trans_lt last)
  obtain ⟨e, rfl⟩ := fraction b (first.trans_le time) last
  have grows := rounds.mono rounds' (product.mono product' (rate_pos whole) time)
  omega

/-- The machine counts the steps of a tick in which none fails. -/
lemma cycles_tick_of_completes (running : p.halted = false)
    (counted : p.stepsFor elapsed = .ok (.whole n)) (completes : p.machine.Completes n.toNat) :
    (p.tick elapsed).1.machine.cycles = p.machine.cycles + n.toNat := by
  rw [cycles_tick, stepsDone, running, counted]
  show _ + p.machine.stepsDone n.toNat = _
  rw [Machine.stepsDone_of_completes completes]

/-- The budget of a tick. At a whole number of steps a second, a time with a finite product covers
at least one step and at most those of a tenth of a second or one; where the rounded product lies
within these bounds it is the number of steps. A tick runs these steps, so the machine counts as
many if it has not stopped and none of them fails. A greater time does not cover fewer steps; no
second and less covers one, a second and more covers the most. -/
theorem steps_within_budget (p : Pacer) {rate : Int} (whole : p.cpuHz = .whole rate) :
    let most := max 1 (rate / 10)
    (∀ elapsed, elapsed.timesFinite p.cpuHz = true →
      p.stepsFor elapsed = .ok (.whole (p.stepCount elapsed)) ∧
      1 ≤ p.stepCount elapsed ∧ p.stepCount elapsed ≤ most ∧
      (∃ product, elapsed.HasProduct rate product) ∧
      (∀ product n, elapsed.HasProduct rate product → RoundsTo product n → 1 ≤ n → n ≤ most →
        p.stepCount elapsed = n) ∧
      (p.halted = false → p.machine.Completes (p.stepCount elapsed).toNat →
        (p.tick elapsed).1.machine.cycles = p.machine.cycles + p.stepCount elapsed)) ∧
    (∀ a b, a.timesFinite p.cpuHz = true → b.timesFinite p.cpuHz = true → a.toRat ≤ b.toRat →
      p.stepCount a ≤ p.stepCount b) ∧
    (∀ n ≤ 0, p.stepCount (.whole n) = 1) ∧
    (∀ n ≥ 1, p.stepCount (.whole n) = most) := by
  intro most
  have wholeFinite (n : Int) : (Quantity.whole n).timesFinite p.cpuHz = true := by rw [whole]; rfl
  refine ⟨?_, ?_, ?_, ?_⟩
  · intro elapsed finite
    obtain ⟨x, n, product, rounds, -⟩ := Quantity.exists_hasProduct (whole ▸ finite)
    have counted := stepsFor_of_rounds whole finite product rounds
    have count := stepCount_of_rounds whole finite product rounds
    rw [← count] at counted
    refine ⟨counted, by omega, by omega, ⟨x, product⟩, ?_, ?_⟩
    · intro product' k hasProduct rounds' atLeast atMost
      rw [stepCount_of_rounds whole finite hasProduct rounds']
      omega
    · intro running completes
      rw [cycles_tick_of_completes running counted completes, Nat.cast_add,
        Int.toNat_of_nonneg (by omega)]
  · intro a b finite finite' time
    exact stepCount_mono whole finite finite' time
  · intro n nonpos
    exact stepCount_of_nonpos whole (wholeFinite n) (Int.cast_nonpos.2 nonpos)
  · intro n pos
    have time : (1 : Rat) ≤ n := by exact_mod_cast pos
    exact stepCount_of_one_le whole (wholeFinite n) time

/-- A machine that stays where it is, at forty steps a second. In a sixteenth of a second there is
time for two steps and a half, so a tick runs two; a second is cut to four, and going back in time
counts as one. -/
theorem half_a_step_left_over :
    let m :=
      ((Machine.fresh ⟨.bit, false, true⟩ false (.cycle 0 [])).performAll
      [.load (.bytes [0x12, 0x00])]).1
    let p : Pacer := ⟨m, .whole 40, rfl, 1, false, none, rfl⟩
    let sixteenth : Quantity := .real (.nearest false (1 / 16))
    p.stepCount sixteenth = 2 ∧ (p.tick sixteenth).1.machine.cycles = 2 ∧
      p.stepCount sixteenth ≤ p.stepCount (.whole 1) ∧ p.stepCount (.whole 1) = 4 ∧
      p.stepCount (.whole (-1)) = 1 := by
  intro m p sixteenth
  obtain ⟨each, grows, least, most⟩ := steps_within_budget p (show p.cpuHz = .whole 40 from rfl)
  have finite : sixteenth.timesFinite p.cpuHz = true := by decide +kernel
  obtain ⟨-, -, -, -, inBounds, advances⟩ := each sixteenth finite
  have product : sixteenth.HasProduct 40 (5 / 2) := by
    have near : Double.ofInt 40 = .ok (.finite false 5629499534213120 (-47)) := by decide +kernel
    have rounded : (Double.nearest false (1 / 16)).mul (.finite false 5629499534213120 (-47)) =
        .finite false 5629499534213120 (-51) := by decide +kernel
    have value : (Double.finite false 5629499534213120 (-51)).toRat = 5 / 2 := by decide +kernel
    rw [← value]
    exact .real (by decide +kernel) (Double.isNearest_ofInt near) (Double.isNearest_mul rounded)
  have rounds : RoundsTo (5 / 2) 2 := ⟨by norm_num [abs_le], fun _ => rfl⟩
  have two := inBounds (5 / 2) 2 product rounds (by decide) (by decide)
  rw [two] at advances
  have completes : p.machine.Completes 2 := by
    intro j before
    refine Option.isNone_iff_eq_none.1 ?_
    revert j
    decide +kernel
  have time : sixteenth.toRat ≤ 1 := by decide +kernel
  refine ⟨two, ?_, grows sixteenth (.whole 1) finite rfl time, most 1 le_rfl,
    least (-1) (by decide)⟩
  have start : p.machine.cycles = 0 := by decide +kernel
  have advanced := advances rfl completes
  rw [start] at advanced
  exact_mod_cast advanced

end Pacer

end Chip8
