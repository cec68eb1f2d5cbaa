import Mathlib.Algebra.Order.Field.Power
import Mathlib.Tactic.Linarith
import Mathlib.Tactic.Ring
import Mathlib.Tactic.Positivity
import Mathlib.Tactic.NormNum
import TypedGraphQL.Number.Binary64

namespace TypedGraphQL.Binary64

theorem zpow_eq_div {base : ℚ} (nonzero : base ≠ 0) (exponent : Int) :
    base ^ exponent = base ^ exponent.toNat / base ^ (-exponent).toNat := by
  rw [← zpow_natCast, ← zpow_natCast, ← zpow_sub₀ nonzero]
  congr 1
  omega

theorem ofFields_fields (x : Binary64) :
    ofFields x.isNegative x.magnitude = x := by
  obtain ⟨bits⟩ := x
  have bound := bits.toNat_lt
  simp only [ofFields, isNegative, magnitude, Binary64.mk.injEq]
  rw [← UInt64.toNat_inj, Nat.toUInt64_eq, UInt64.toNat_ofNat']
  simp only [decide_eq_true_eq]
  split <;> omega

section Fields

variable {negative : Bool} {magnitude : Nat}

theorem isNegative_ofFields (bound : magnitude < 2 ^ 63) :
    (ofFields negative magnitude).isNegative = negative := by
  cases negative with
  | false =>
      simp only [ofFields, isNegative, Nat.toUInt64_eq, UInt64.toNat_ofNat',
        Bool.false_eq_true, if_false, decide_eq_false_iff_not]
      omega
  | true =>
      simp only [ofFields, isNegative, Nat.toUInt64_eq, UInt64.toNat_ofNat',
        if_true, decide_eq_true_eq]
      omega

theorem magnitude_ofFields (bound : magnitude < 2 ^ 63) :
    (ofFields negative magnitude).magnitude = magnitude := by
  simp only [ofFields, Binary64.magnitude, Nat.toUInt64_eq, UInt64.toNat_ofNat']
  split <;> omega

end Fields

theorem magnitude_eq (x : Binary64) :
    x.magnitude = (x.exponent + 1074).toNat * 2 ^ 52 + x.significand := by
  simp only [exponent, significand]
  split <;> omega

theorem le_exponent (x : Binary64) : -1074 ≤ x.exponent := by
  rw [exponent]
  split <;> omega

theorem significand_lt (x : Binary64) : x.significand < 2 ^ 53 := by
  rw [significand]
  split <;> omega

theorem le_significand {x : Binary64} (normal : -1074 < x.exponent) :
    2 ^ 52 ≤ x.significand := by
  simp only [exponent, significand] at normal ⊢
  split at normal <;> split <;> omega

theorem exponent_le {x : Binary64} (finite : x.isFinite = true) :
    x.exponent ≤ 971 := by
  rw [isFinite, decide_eq_true_eq, infiniteMagnitude] at finite
  rw [exponent]
  split <;> omega

/-! The exponent of a ratio -/

theorem div_lt_zpow_iff {base numerator denominator : Nat} (positive : 0 < base)
    (divisible : 0 < denominator) (exponent : Int) :
    (numerator : ℚ) / denominator < (base : ℚ) ^ exponent ↔
      numerator * base ^ (-exponent).toNat <
        denominator * base ^ exponent.toNat := by
  have nonzero : (base : ℚ) ≠ 0 := by positivity
  have denominatorPositive : (0 : ℚ) < denominator := by exact_mod_cast divisible
  rw [zpow_eq_div nonzero, div_lt_div_iff₀ denominatorPositive (by positivity),
    mul_comm ((base : ℚ) ^ exponent.toNat)]
  exact_mod_cast Iff.rfl

theorem zpow_le_div_iff {base numerator denominator : Nat} (positive : 0 < base)
    (divisible : 0 < denominator) (exponent : Int) :
    (base : ℚ) ^ exponent ≤ (numerator : ℚ) / denominator ↔
      denominator * base ^ exponent.toNat ≤
        numerator * base ^ (-exponent).toNat := by
  rw [← not_lt, div_lt_zpow_iff positive divisible, not_lt]

section Ratio

variable {numerator denominator : Nat}

theorem zpow_log2_sub_one_le (positive : 0 < numerator)
    (divisible : 0 < denominator) :
    (2 : ℚ) ^ ((numerator.log2 : Int) - denominator.log2 - 1) ≤
      numerator / denominator := by
  have below : (2 : ℚ) ^ numerator.log2 ≤ numerator := by
    exact_mod_cast Nat.log2_self_le positive.ne'
  have above : (denominator : ℚ) ≤ 2 ^ (denominator.log2 + 1) := by
    exact_mod_cast Nat.lt_log2_self.le
  have denominatorPositive : (0 : ℚ) < denominator := by exact_mod_cast divisible
  calc (2 : ℚ) ^ ((numerator.log2 : Int) - denominator.log2 - 1)
    _ = 2 ^ numerator.log2 / 2 ^ (denominator.log2 + 1) := by
      rw [← zpow_natCast, ← zpow_natCast, ← zpow_sub₀ two_ne_zero]
      push_cast
      ring_nf
    _ ≤ numerator / denominator :=
      div_le_div₀ (by positivity) below denominatorPositive above

theorem div_lt_zpow_log2_add_one (divisible : 0 < denominator) :
    (numerator : ℚ) / denominator <
      2 ^ ((numerator.log2 : Int) - denominator.log2 + 1) := by
  have above : (numerator : ℚ) < 2 ^ (numerator.log2 + 1) := by
    exact_mod_cast Nat.lt_log2_self
  have below : (2 : ℚ) ^ denominator.log2 ≤ denominator := by
    exact_mod_cast Nat.log2_self_le divisible.ne'
  calc (numerator : ℚ) / denominator
    _ < 2 ^ (numerator.log2 + 1) / 2 ^ denominator.log2 :=
      div_lt_div₀ above below (by positivity) (by positivity)
    _ = 2 ^ ((numerator.log2 : Int) - denominator.log2 + 1) := by
      rw [← zpow_natCast, ← zpow_natCast, ← zpow_sub₀ two_ne_zero]
      push_cast
      ring_nf

theorem zpow_ratioLog2_le (positive : 0 < numerator)
    (divisible : 0 < denominator) :
    (2 : ℚ) ^ ratioLog2 numerator denominator ≤ numerator / denominator := by
  rw [ratioLog2]
  split
  next => exact zpow_log2_sub_one_le positive divisible
  next reached =>
    rw [← @div_lt_zpow_iff 2 _ _ (by decide) divisible, not_lt] at reached
    exact reached

theorem div_lt_zpow_ratioLog2 (divisible : 0 < denominator) :
    (numerator : ℚ) / denominator <
      2 ^ (ratioLog2 numerator denominator + 1) := by
  rw [ratioLog2]
  split
  next missed =>
    rw [← @div_lt_zpow_iff 2 _ _ (by decide) divisible] at missed
    rw [sub_add_cancel]
    exact missed
  next => exact div_lt_zpow_log2_add_one divisible

/-! Rounding -/

theorem roundedQuotient_eq {rounded : Nat} (divisible : 0 < denominator)
    (lower : (rounded : ℚ) - 1 / 2 ≤ numerator / denominator)
    (upper : (numerator : ℚ) / denominator ≤ rounded + 1 / 2)
    (tie : (numerator : ℚ) / denominator = rounded - 1 / 2 ∨
      (numerator : ℚ) / denominator = rounded + 1 / 2 → rounded % 2 = 0) :
    roundedQuotient numerator denominator = rounded := by
  have denominatorPositive : (0 : ℚ) < denominator := by exact_mod_cast divisible
  have remains := Nat.mod_lt numerator divisible
  have value : (numerator : ℚ) / denominator =
      (numerator / denominator : Nat) +
        (numerator % denominator : Nat) / denominator := by
    rw [eq_comm, eq_div_iff denominatorPositive.ne', add_mul,
      div_mul_cancel₀ _ denominatorPositive.ne']
    exact_mod_cast Nat.div_add_mod' numerator denominator
  rw [roundedQuotient]
  generalize numerator / denominator = quotient at value ⊢
  generalize numerator % denominator = remainder at value remains ⊢
  rw [value] at lower upper tie
  have nonnegative : (0 : ℚ) ≤ remainder / denominator := by positivity
  have below : (remainder : ℚ) / denominator < 1 := by
    rw [div_lt_one denominatorPositive]
    exact_mod_cast remains
  rcases Nat.lt_trichotomy (2 * remainder) denominator with low | half | high
  · have small : (remainder : ℚ) / denominator < 1 / 2 := by
      rw [div_lt_div_iff₀ denominatorPositive two_pos, one_mul, mul_comm]
      exact_mod_cast low
    have first : (rounded : ℚ) < quotient + 1 := by linarith
    have second : (quotient : ℚ) < rounded + 1 := by linarith
    norm_cast at first second
    simp only [low, if_true]
    omega
  · have middle : (remainder : ℚ) / denominator = 1 / 2 := by
      rw [div_eq_div_iff denominatorPositive.ne' two_ne_zero, one_mul, mul_comm]
      exact_mod_cast half
    rw [middle] at lower upper tie
    have first : (rounded : ℚ) ≤ quotient + 1 := by linarith
    have second : (quotient : ℚ) ≤ rounded := by linarith
    norm_cast at first second
    simp only [half, Nat.lt_irrefl, if_false]
    rcases Nat.lt_or_eq_of_le second with up | rfl
    · obtain rfl : rounded = quotient + 1 := by omega
      have even := tie (.inl (by push_cast; ring))
      omega
    · have even := tie (.inr rfl)
      omega
  · have large : 1 / 2 < (remainder : ℚ) / denominator := by
      rw [div_lt_div_iff₀ two_pos denominatorPositive, one_mul,
        mul_comm (remainder : ℚ)]
      exact_mod_cast high
    have first : (2 * rounded : ℚ) < 2 * quotient + 3 := by linarith
    have second : (quotient : ℚ) < rounded := by linarith
    norm_cast at first second
    simp only [high, Nat.lt_asymm high, if_true, if_false]
    omega

theorem scaled_ratio (numerator denominator : Nat) (exponent : Int) :
    ((numerator * 2 ^ (-exponent).toNat : Nat) : ℚ) /
        (denominator * 2 ^ exponent.toNat : Nat) =
      numerator / denominator / 2 ^ exponent := by
  rw [zpow_eq_div two_ne_zero exponent, div_div_div_eq]
  push_cast
  rfl

theorem ofRatio_eq_ofFields {exponent : Int} {rounded : Nat} (negative : Bool)
    (positive : 0 < numerator) (divisible : 0 < denominator)
    (scale : max (ratioLog2 numerator denominator - 52) (-1074) = exponent)
    (lower : (rounded : ℚ) - 1 / 2 ≤ numerator / denominator / 2 ^ exponent)
    (upper : (numerator : ℚ) / denominator / 2 ^ exponent ≤ rounded + 1 / 2)
    (tie : (numerator : ℚ) / denominator / 2 ^ exponent = rounded - 1 / 2 ∨
      (numerator : ℚ) / denominator / 2 ^ exponent = rounded + 1 / 2 →
        rounded % 2 = 0) :
    ofRatio negative numerator denominator =
      ofFields negative
        (min ((exponent + 1074).toNat * 2 ^ 52 + rounded) infiniteMagnitude) := by
  rw [← scaled_ratio] at lower upper tie
  have divisor : 0 < denominator * 2 ^ exponent.toNat :=
    Nat.mul_pos divisible (Nat.two_pow_pos _)
  rw [ofRatio, if_neg positive.ne']
  simp only [scale, roundedQuotient_eq divisor lower upper tie]

end Ratio

/-! The ratios that are rounded to a number -/

/-- How far below the number, in units of its last place, the ratios begin. -/
def gap (x : Binary64) : ℚ :=
  if x.significand = 2 ^ 52 ∧ -1074 < x.exponent then 1 / 4 else 1 / 2

/-- The ratio is rounded to the number, its sign aside. -/
structure Near (x : Binary64) (ratio : ℚ) : Prop where
  lower : x.significand - x.gap ≤ ratio / 2 ^ x.exponent
  upper : ratio / 2 ^ x.exponent ≤ x.significand + 1 / 2
  tie : ratio / 2 ^ x.exponent = x.significand - x.gap ∨
    ratio / 2 ^ x.exponent = x.significand + 1 / 2 → x.significand % 2 = 0

theorem gap_le (x : Binary64) : x.gap ≤ 1 / 2 := by
  rw [gap]
  split <;> norm_num

theorem Near.pos {x : Binary64} {ratio : ℚ} (near : x.Near ratio)
    (nonzero : x.significand ≠ 0) : 0 < ratio := by
  have significandPositive : (1 : ℚ) ≤ x.significand := by
    exact_mod_cast Nat.one_le_iff_ne_zero.mpr nonzero
  have lower := near.lower
  have gap := x.gap_le
  have scaled : 0 < ratio / 2 ^ x.exponent := by linarith
  exact (div_pos_iff_of_pos_right (by positivity)).mp scaled

theorem Near.lt_zpow {x : Binary64} {ratio : ℚ} (near : x.Near ratio) :
    ratio < 2 ^ (x.exponent + 53) := by
  have bound : (x.significand : ℚ) + 1 ≤ 2 ^ 53 := by
    exact_mod_cast x.significand_lt
  have scaled : ratio / 2 ^ x.exponent < 2 ^ 53 := by
    have upper := near.upper
    linarith
  rw [div_lt_iff₀ (by positivity)] at scaled
  rw [zpow_add₀ two_ne_zero, mul_comm]
  exact_mod_cast scaled

theorem exponent_eq_of_zpow {low high : Int} {ratio : ℚ}
    (above : (2 : ℚ) ^ low ≤ ratio) (below : ratio < 2 ^ high) : low < high :=
  (zpow_lt_zpow_iff_right₀ one_lt_two).mp (above.trans_lt below)

theorem Near.of_lt_zpow {x : Binary64} {ratio : ℚ} (near : x.Near ratio)
    (normal : -1074 < x.exponent) (below : ratio < 2 ^ (x.exponent + 52)) :
    x.significand = 2 ^ 52 ∧ 2 ^ 53 - 1 / 2 ≤ ratio / 2 ^ (x.exponent - 1) ∧
      ratio / 2 ^ (x.exponent - 1) < 2 ^ 53 := by
  have scaled : ratio / 2 ^ x.exponent < 2 ^ 52 := by
    rw [div_lt_iff₀ (by positivity), mul_comm]
    rw [zpow_add₀ two_ne_zero] at below
    exact_mod_cast below
  have lower := near.lower
  have gap := x.gap_le
  have least : x.significand = 2 ^ 52 := by
    have bound : (x.significand : ℚ) < 2 ^ 52 + 1 := by linarith
    have reached := le_significand normal
    norm_cast at bound
    omega
  have quarter : x.gap = 1 / 4 := if_pos ⟨least, normal⟩
  have doubled : ratio / 2 ^ (x.exponent - 1) = 2 * (ratio / 2 ^ x.exponent) := by
    rw [zpow_sub_one₀ two_ne_zero, ← div_div, div_inv_eq_mul, mul_comm]
  rw [least, quarter] at lower
  push_cast at lower
  rw [doubled]
  exact ⟨least, by linarith, by linarith⟩

/-- A ratio near to a finite number is rounded to it. -/
theorem ofRatio_of_near {x : Binary64} {numerator denominator : Nat}
    (negative : Bool) (finite : x.isFinite = true) (nonzero : x.significand ≠ 0)
    (divisible : 0 < denominator) (near : x.Near (numerator / denominator)) :
    ofRatio negative numerator denominator = ofFields negative x.magnitude := by
  have ratioPositive := near.pos nonzero
  have denominatorPositive : (0 : ℚ) < denominator := by exact_mod_cast divisible
  have positive : 0 < numerator := by
    exact_mod_cast (div_pos_iff_of_pos_right denominatorPositive).mp ratioPositive
  have reached := zpow_ratioLog2_le positive divisible
  have passed := @div_lt_zpow_ratioLog2 numerator _ divisible
  have least := x.le_exponent
  have notGreater : ratioLog2 numerator denominator < x.exponent + 53 :=
    exponent_eq_of_zpow reached near.lt_zpow
  have bounded : x.magnitude ≤ infiniteMagnitude := by
    rw [isFinite, decide_eq_true_eq] at finite
    exact finite.le
  by_cases scale : max (ratioLog2 numerator denominator - 52) (-1074) = x.exponent
  · have gap := x.gap_le
    have lower := near.lower
    rw [ofRatio_eq_ofFields negative positive divisible scale (by linarith)
      near.upper, ← magnitude_eq, Nat.min_eq_left bounded]
    rintro (low | high)
    · exact near.tie (.inl (by linarith))
    · exact near.tie (.inr high)
  · have normal : -1074 < x.exponent := by omega
    have smaller : ratioLog2 numerator denominator + 1 ≤ x.exponent + 52 := by
      omega
    obtain ⟨significand, lower, upper⟩ := near.of_lt_zpow normal
      (passed.trans_le (zpow_le_zpow_right₀ one_le_two smaller))
    have scale : max (ratioLog2 numerator denominator - 52) (-1074) =
        x.exponent - 1 := by
      have close : x.exponent - 1 + 52 < ratioLog2 numerator denominator + 1 := by
        apply exponent_eq_of_zpow _ passed
        rw [zpow_add₀ two_ne_zero, mul_comm, ← le_div_iff₀ (by positivity)]
        norm_num at lower ⊢
        linarith
      omega
    have power : ((2 ^ 53 : Nat) : ℚ) = 2 ^ 53 := by norm_num
    rw [@ofRatio_eq_ofFields _ _ _ (2 ^ 53) negative positive divisible scale
      (by rw [power]; exact lower) (by rw [power]; linarith) (fun _ => by decide)]
    have magnitude := x.magnitude_eq
    rw [significand] at magnitude
    have same : (x.exponent - 1 + 1074).toNat * 2 ^ 52 + 2 ^ 53 = x.magnitude := by
      omega
    rw [same, Nat.min_eq_left bounded]

end TypedGraphQL.Binary64
