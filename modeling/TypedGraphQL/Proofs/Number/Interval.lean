import TypedGraphQL.Number.Shortest
import TypedGraphQL.Proofs.Number.Nearest

namespace TypedGraphQL.Binary64

section Interval

variable {x : Binary64}

theorem le_decimal_iff {bound denominator : Nat} (divisible : 0 < denominator)
    (digits : Nat) (exponent : Int) :
    bound * 10 ^ (-exponent).toNat ≤ digits * 10 ^ exponent.toNat * denominator ↔
      (bound : ℚ) / denominator ≤ digits * 10 ^ exponent := by
  have denominatorPositive : (0 : ℚ) < denominator := by exact_mod_cast divisible
  rw [zpow_eq_div (by norm_num : (10 : ℚ) ≠ 0), ← mul_div_assoc,
    div_le_div_iff₀ denominatorPositive (by positivity)]
  exact_mod_cast Iff.rfl

theorem decimal_le_iff {bound denominator : Nat} (divisible : 0 < denominator)
    (digits : Nat) (exponent : Int) :
    digits * 10 ^ exponent.toNat * denominator ≤ bound * 10 ^ (-exponent).toNat ↔
      (digits : ℚ) * 10 ^ exponent ≤ bound / denominator := by
  have denominatorPositive : (0 : ℚ) < denominator := by exact_mod_cast divisible
  rw [zpow_eq_div (by norm_num : (10 : ℚ) ≠ 0), ← mul_div_assoc,
    div_le_div_iff₀ (by positivity) denominatorPositive]
  exact_mod_cast Iff.rfl

theorem lt_decimal_iff {bound denominator : Nat} (divisible : 0 < denominator)
    (digits : Nat) (exponent : Int) :
    bound * 10 ^ (-exponent).toNat < digits * 10 ^ exponent.toNat * denominator ↔
      (bound : ℚ) / denominator < digits * 10 ^ exponent := by
  rw [← not_le, decimal_le_iff divisible, not_le]

theorem decimal_lt_iff {bound denominator : Nat} (divisible : 0 < denominator)
    (digits : Nat) (exponent : Int) :
    digits * 10 ^ exponent.toNat * denominator < bound * 10 ^ (-exponent).toNat ↔
      (digits : ℚ) * 10 ^ exponent < bound / denominator := by
  rw [← not_le, le_decimal_iff divisible, not_le]

theorem denominator_roundingInterval_pos (x : Binary64) :
    0 < x.roundingInterval.denominator :=
  Nat.mul_pos (by decide) (Nat.two_pow_pos _)

theorem scaled_significand (x : Binary64) (quarters : Nat) :
    ((quarters * 2 ^ x.exponent.toNat : Nat) : ℚ) /
        (4 * 2 ^ (-x.exponent).toNat : Nat) =
      quarters / 4 * 2 ^ x.exponent := by
  rw [zpow_eq_div two_ne_zero x.exponent, div_mul_div_comm]
  push_cast
  rfl

theorem value_roundingInterval (x : Binary64) :
    (x.roundingInterval.value : ℚ) / x.roundingInterval.denominator =
      x.significand * 2 ^ x.exponent := by
  have scaled := x.scaled_significand (4 * x.significand)
  rw [roundingInterval]
  rw [scaled]
  push_cast
  ring

theorem upper_roundingInterval (x : Binary64) :
    (x.roundingInterval.upper : ℚ) / x.roundingInterval.denominator =
      (x.significand + 1 / 2) * 2 ^ x.exponent := by
  have scaled := x.scaled_significand (4 * x.significand + 2)
  rw [roundingInterval]
  rw [scaled]
  push_cast
  ring

theorem lower_roundingInterval (nonzero : x.significand ≠ 0) :
    (x.roundingInterval.lower : ℚ) / x.roundingInterval.denominator =
      (x.significand - x.gap) * 2 ^ x.exponent := by
  have scaled := x.scaled_significand (4 * x.significand -
    if x.significand = 2 ^ 52 ∧ -1074 < x.exponent then 1 else 2)
  rw [roundingInterval]
  rw [scaled, gap, Nat.cast_sub (by split <;> omega)]
  split <;> push_cast <;> ring

theorem holds_iff_near (nonzero : x.significand ≠ 0) (digits : Nat)
    (exponent : Int) :
    x.roundingInterval.holds digits exponent = true ↔
      x.Near (digits * 10 ^ exponent) := by
  have divisible := x.denominator_roundingInterval_pos
  have unit : (0 : ℚ) < 2 ^ x.exponent := by positivity
  have closed : x.roundingInterval.closed = decide (x.significand % 2 = 0) := rfl
  rw [RoundingInterval.holds, closed]
  by_cases even : x.significand % 2 = 0
  · rw [if_pos (decide_eq_true even), Bool.and_eq_true, decide_eq_true_eq,
      decide_eq_true_eq, le_decimal_iff divisible, decimal_le_iff divisible,
      lower_roundingInterval nonzero, upper_roundingInterval,
      ← le_div_iff₀ unit, ← div_le_iff₀ unit]
    exact ⟨fun within => ⟨within.1, within.2, fun _ => even⟩,
      fun near => ⟨near.lower, near.upper⟩⟩
  · rw [if_neg (by simpa using even), Bool.and_eq_true, decide_eq_true_eq,
      decide_eq_true_eq, lt_decimal_iff divisible, decimal_lt_iff divisible,
      lower_roundingInterval nonzero, upper_roundingInterval,
      ← lt_div_iff₀ unit, ← div_lt_iff₀ unit]
    constructor
    · rintro ⟨above, below⟩
      exact ⟨above.le, below.le, fun tie =>
        absurd tie (by rw [not_or]; exact ⟨above.ne', below.ne⟩)⟩
    · intro near
      exact ⟨lt_of_le_of_ne near.lower fun tie => even (near.tie (.inl tie.symm)),
        lt_of_le_of_ne near.upper fun tie => even (near.tie (.inr tie))⟩

theorem holds_of_onGrid? {interval : RoundingInterval} {exponent : Int}
    {decimal : Decimal} (found : interval.onGrid? exponent = some decimal) :
    interval.holds decimal.digits decimal.exponent = true := by
  simp only [RoundingInterval.onGrid?] at found
  split at found
  case h_1 below above =>
    cases found
    dsimp only
    split
    · exact below
    · exact above
  case h_2 below _ =>
    cases found
    exact below
  case h_3 _ above =>
    cases found
    exact above
  case h_4 => contradiction

theorem near_of_lt {ratio : ℚ}
    (above : x.significand - x.gap < ratio / 2 ^ x.exponent)
    (below : ratio / 2 ^ x.exponent < x.significand + 1 / 2) : x.Near ratio where
  lower := above.le
  upper := below.le
  tie ends := by
    rcases ends with low | high
    · exact absurd low above.ne'
    · exact absurd high below.ne

theorem value_between (x : Binary64) (exponent : Int) :
    let below := x.roundingInterval.value * 10 ^ (-exponent).toNat /
      (10 ^ exponent.toNat * x.roundingInterval.denominator)
    (below : ℚ) * 10 ^ exponent ≤ x.significand * 2 ^ x.exponent ∧
      x.significand * 2 ^ x.exponent < ((below + 1 : Nat) : ℚ) * 10 ^ exponent := by
  intro below
  have divisible := x.denominator_roundingInterval_pos
  have step : 0 < 10 ^ exponent.toNat * x.roundingInterval.denominator :=
    Nat.mul_pos (Nat.pow_pos (by decide)) divisible
  rw [← value_roundingInterval, ← decimal_le_iff divisible,
    ← lt_decimal_iff divisible, mul_assoc, mul_assoc]
  exact ⟨Nat.div_mul_le_self _ _, Nat.lt_mul_of_div_lt (Nat.lt_succ_self _) step⟩

/-- A grid that is finer than the interval is wide has a decimal in it. -/
theorem isSome_onGrid? (nonzero : x.significand ≠ 0) {exponent : Int}
    (fine : (10 : ℚ) ^ exponent < (x.gap + 1 / 2) * 2 ^ x.exponent) :
    (x.roundingInterval.onGrid? exponent).isSome = true := by
  have between := x.value_between exponent
  simp only [RoundingInterval.onGrid?]
  generalize x.roundingInterval.value * 10 ^ (-exponent).toNat /
    (10 ^ exponent.toNat * x.roundingInterval.denominator) = below at between ⊢
  split
  · rfl
  · rfl
  · rfl
  next outBelow outAbove =>
    rw [← Bool.not_eq_true, holds_iff_near nonzero] at outBelow outAbove
    have unit : (0 : ℚ) < 2 ^ x.exponent := by positivity
    have gapPositive : 0 < x.gap := by
      rw [gap]
      split <;> norm_num
    have low : (below : ℚ) * 10 ^ exponent / 2 ^ x.exponent ≤
        x.significand - x.gap := by
      by_contra above
      refine outBelow (near_of_lt (not_le.mp above) ?_)
      have value := (div_le_iff₀ unit).mpr between.1
      linarith
    have high : (x.significand : ℚ) + 1 / 2 ≤
        ((below + 1 : Nat) : ℚ) * 10 ^ exponent / 2 ^ x.exponent := by
      by_contra under
      refine outAbove (near_of_lt ?_ (not_le.mp under))
      have value := (lt_div_iff₀ unit).mpr between.2
      linarith
    have scaled := (div_lt_iff₀ unit).mpr fine
    push_cast at high
    rw [add_mul, add_div, one_mul] at high
    linarith

end Interval

/-! The decimal exponent of a ratio -/

theorem ten_zpow_le_two_zpow {power exponent : Int}
    (estimate : 4096 * (power + 1) ≤ 1233 * exponent)
    (low : -1200 ≤ exponent) (high : exponent ≤ 1200) :
    (10 : ℚ) ^ power ≤ 2 ^ exponent := by
  have one_le_ten : (1 : ℚ) ≤ 10 := by norm_num
  rcases le_or_gt 0 exponent with positive | negative
  · -- 59 / 196 is a little less than the logarithm of two.
    rw [← pow_le_pow_iff_left₀ (by positivity) (by positivity)
      (by norm_num : 196 ≠ 0)]
    calc ((10 : ℚ) ^ power) ^ 196
      _ = 10 ^ (power * 196) := by rw [zpow_mul]; rfl
      _ ≤ 10 ^ (59 * exponent) := zpow_le_zpow_right₀ one_le_ten (by omega)
      _ = (10 ^ 59) ^ exponent := by rw [zpow_mul]; rfl
      _ ≤ (2 ^ 196) ^ exponent :=
        zpow_le_zpow_left₀ positive (by positivity) (by norm_num)
      _ = ((2 : ℚ) ^ exponent) ^ 196 := by
        rw [← zpow_natCast, ← zpow_natCast, ← zpow_mul, ← zpow_mul, mul_comm]
  · -- 28 / 93 is a little more.
    rw [← pow_le_pow_iff_left₀ (by positivity) (by positivity)
      (by norm_num : 93 ≠ 0)]
    calc ((10 : ℚ) ^ power) ^ 93
      _ = 10 ^ (power * 93) := by rw [zpow_mul]; rfl
      _ ≤ 10 ^ (28 * exponent) := zpow_le_zpow_right₀ one_le_ten (by omega)
      _ = (10 ^ 28) ^ exponent := by rw [zpow_mul]; rfl
      _ ≤ (2 ^ 93) ^ exponent := by
        rw [← neg_neg exponent, zpow_neg, zpow_neg (2 ^ 93 : ℚ)]
        exact inv_anti₀ (by positivity)
          (zpow_le_zpow_left₀ (by omega) (by positivity) (by norm_num))
      _ = ((2 : ℚ) ^ exponent) ^ 93 := by
        rw [← zpow_natCast, ← zpow_natCast, ← zpow_mul, ← zpow_mul, mul_comm]

theorem zpow_ratioLog10_le {numerator denominator : Nat}
    (positive : 0 < numerator) (divisible : 0 < denominator)
    (low : -1200 ≤ ratioLog2 numerator denominator)
    (high : ratioLog2 numerator denominator ≤ 1200) :
    (10 : ℚ) ^ ratioLog10 numerator denominator ≤ numerator / denominator := by
  have reaches (power : Int) (found : decide (denominator * 10 ^ power.toNat ≤
      numerator * 10 ^ (-power).toNat) = true) :
      (10 : ℚ) ^ power ≤ numerator / denominator :=
    (@zpow_le_div_iff 10 _ _ (by decide) divisible power).mpr
      (of_decide_eq_true found)
  simp only [ratioLog10]
  split
  next found => exact reaches _ found
  next =>
    split
    next found => exact reaches _ found
    next =>
      refine (ten_zpow_le_two_zpow ?_ low high).trans
        (zpow_ratioLog2_le positive divisible)
      have floor := Int.ediv_mul_le (ratioLog2 numerator denominator * 1233)
        (by decide : (4096 : Int) ≠ 0)
      omega

/-! The shortest decimal -/

section Shortest

variable {x : Binary64}

theorem ratioLog2_roundingInterval (finite : x.isFinite = true)
    (nonzero : x.significand ≠ 0) :
    -1074 ≤ ratioLog2 x.roundingInterval.value x.roundingInterval.denominator ∧
      ratioLog2 x.roundingInterval.value x.roundingInterval.denominator < 1024 := by
  have divisible := x.denominator_roundingInterval_pos
  have positive : 0 < x.roundingInterval.value :=
    Nat.mul_pos (Nat.mul_pos (by decide) (Nat.pos_of_ne_zero nonzero))
      (Nat.two_pow_pos _)
  have reached := zpow_ratioLog2_le positive divisible
  have passed := @div_lt_zpow_ratioLog2 x.roundingInterval.value _ divisible
  rw [value_roundingInterval] at reached passed
  have unit : (0 : ℚ) < 2 ^ x.exponent := by positivity
  have one_le : (1 : ℚ) ≤ x.significand := by
    exact_mod_cast Nat.one_le_iff_ne_zero.mpr nonzero
  have bound : (x.significand : ℚ) < 2 ^ 53 := by
    exact_mod_cast x.significand_lt
  have least := x.le_exponent
  have greatest := exponent_le finite
  have above : x.exponent <
      ratioLog2 x.roundingInterval.value x.roundingInterval.denominator + 1 :=
    exponent_eq_of_zpow (le_mul_of_one_le_left unit.le one_le) passed
  have below : ratioLog2 x.roundingInterval.value x.roundingInterval.denominator <
      x.exponent + 53 := by
    apply exponent_eq_of_zpow reached
    rw [zpow_add₀ two_ne_zero, mul_comm (2 ^ x.exponent)]
    exact mul_lt_mul_of_pos_right (by exact_mod_cast bound) unit
  omega

/-- Seventeen digits are enough for every number. -/
theorem seventeen_digits (finite : x.isFinite = true)
    (nonzero : x.significand ≠ 0) :
    (10 : ℚ) ^ (ratioLog10 x.roundingInterval.value
        x.roundingInterval.denominator - 16) <
      (x.gap + 1 / 2) * 2 ^ x.exponent := by
  have divisible := x.denominator_roundingInterval_pos
  have positive : 0 < x.roundingInterval.value :=
    Nat.mul_pos (Nat.mul_pos (by decide) (Nat.pos_of_ne_zero nonzero))
      (Nat.two_pow_pos _)
  obtain ⟨low, high⟩ := ratioLog2_roundingInterval finite nonzero
  have leading := zpow_ratioLog10_le positive divisible (by omega) (by omega)
  rw [value_roundingInterval] at leading
  have unit : (0 : ℚ) < 2 ^ x.exponent := by positivity
  have bound : (x.significand : ℚ) < 2 ^ 53 := by
    exact_mod_cast x.significand_lt
  have dense : (x.significand : ℚ) / 10 ^ 16 < x.gap + 1 / 2 := by
    rw [gap]
    split
    next least =>
      rw [least.1]
      norm_num
    next =>
      have enough : (2 : ℚ) ^ 53 < 10 ^ 16 := by norm_num
      rw [div_lt_iff₀ (by positivity)]
      linarith
  rw [zpow_sub₀ (by norm_num)]
  calc (10 : ℚ) ^ ratioLog10 x.roundingInterval.value
        x.roundingInterval.denominator / 10 ^ (16 : Int)
    _ ≤ x.significand * 2 ^ x.exponent / 10 ^ (16 : Int) := by gcongr
    _ = x.significand / 10 ^ 16 * 2 ^ x.exponent := by
      rw [div_mul_eq_mul_div]
      rfl
    _ < (x.gap + 1 / 2) * 2 ^ x.exponent :=
      mul_lt_mul_of_pos_right dense unit

/-- The shortest decimal of a number is near to it. -/
theorem near_shortest (finite : x.isFinite = true)
    (nonzero : x.significand ≠ 0) :
    x.Near (x.shortest.digits * 10 ^ x.shortest.exponent) := by
  rw [← holds_iff_near nonzero]
  have last := isSome_onGrid? nonzero (seventeen_digits finite nonzero)
  simp only [shortest]
  cases found : List.findSome? x.roundingInterval.onGrid? _ with
  | none =>
      rw [List.findSome?_eq_none_iff] at found
      have missing := found _ (List.mem_map_of_mem (by decide : 16 ∈ List.range 17))
      rw [Option.isSome_iff_ne_none] at last
      exact absurd missing last
  | some decimal =>
      obtain ⟨exponent, -, onGrid⟩ := List.exists_of_findSome?_eq_some found
      exact holds_of_onGrid? onGrid

end Shortest

end TypedGraphQL.Binary64
