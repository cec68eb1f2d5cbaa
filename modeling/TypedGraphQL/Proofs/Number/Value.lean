import TypedGraphQL.Proofs.Number.Nearest

namespace TypedGraphQL.Binary64

def value (x : Binary64) : ℚ :=
  (if x.isNegative then -1 else 1) * (x.significand * 2 ^ x.exponent)

theorem value_of_nonnegative {x : Binary64} (nonnegative : x.isNegative = false) :
    x.value = x.significand * 2 ^ x.exponent := by
  simp [value, nonnegative]

theorem nonnegative_of_value_pos {x : Binary64} (positive : 0 < x.value) :
    x.isNegative = false := by
  by_contra negative
  have size : (0 : ℚ) ≤ x.significand * 2 ^ x.exponent := by positivity
  simp only [value, Bool.not_eq_false] at positive negative
  rw [negative, if_pos rfl] at positive
  linarith

theorem near_value (x : Binary64) : x.Near (x.significand * 2 ^ x.exponent) := by
  have gap : 0 < x.gap := by
    rw [Binary64.gap]
    split <;> norm_num
  have scaled : (x.significand * 2 ^ x.exponent : ℚ) / 2 ^ x.exponent =
      x.significand :=
    mul_div_cancel_right₀ _ (by positivity)
  constructor <;> rw [scaled]
  · linarith
  · linarith
  · rintro (low | high) <;> linarith

/-! Integers beyond the signed ones of 64 bits -/

theorem dvd_of_value {x : Binary64} {integer : Int} (large : 2 ^ 63 ≤ integer)
    (same : x.value = integer) : 2 ^ 11 ∣ integer := by
  have least : (2 : ℚ) ^ 63 ≤ x.value := by
    rw [same]
    exact_mod_cast large
  rw [value_of_nonnegative (nonnegative_of_value_pos (by linarith))]
    at same least
  have bound : (x.significand : ℚ) < 2 ^ 53 := by
    exact_mod_cast x.significand_lt
  have below : x.significand * 2 ^ x.exponent < (2 : ℚ) ^ (x.exponent + 53) := by
    rw [zpow_add₀ two_ne_zero, mul_comm]
    exact mul_lt_mul_of_pos_left (by exact_mod_cast bound) (by positivity)
  have scale : (63 : Int) < x.exponent + 53 :=
    exponent_eq_of_zpow (by exact_mod_cast least) below
  refine ⟨x.significand * 2 ^ (x.exponent - 11).toNat, ?_⟩
  have whole : ((x.exponent - 11).toNat : Int) + 11 = x.exponent := by omega
  have powers : (2 : ℚ) ^ x.exponent = 2 ^ (x.exponent - 11).toNat * 2 ^ 11 := by
    rw [← zpow_natCast, ← zpow_natCast, ← zpow_add₀ two_ne_zero]
    exact congrArg _ whole.symm
  rw [powers, ← mul_assoc, mul_comm] at same
  exact_mod_cast same.symm

def ofSignificand (significand : Nat) : Binary64 :=
  ofFields false (1085 * 2 ^ 52 + significand)

section Significand

variable {significand : Nat}

theorem ofSignificand_fields (low : 2 ^ 52 ≤ significand)
    (high : significand < 2 ^ 53) :
    (ofSignificand significand).isFinite = true ∧
      (ofSignificand significand).isNegative = false ∧
      (ofSignificand significand).significand = significand ∧
      (ofSignificand significand).exponent = 11 := by
  have bound : 1085 * 2 ^ 52 + significand < 2 ^ 63 := by omega
  have magnitude := @magnitude_ofFields false _ bound
  refine ⟨?_, isNegative_ofFields bound, ?_, ?_⟩
  · rw [isFinite, ofSignificand, magnitude, infiniteMagnitude]
    exact decide_eq_true (by omega)
  · rw [Binary64.significand, ofSignificand, magnitude, if_neg (by omega)]
    omega
  · rw [exponent, ofSignificand, magnitude, if_neg (by omega)]
    omega

theorem ofInt_eq_ofSignificand (low : 2 ^ 52 ≤ significand)
    (high : significand < 2 ^ 53) :
    ofInt (2 ^ 11 * significand) = ofSignificand significand := by
  obtain ⟨finite, nonnegative, digits, scale⟩ := ofSignificand_fields low high
  have near := (ofSignificand significand).near_value
  have size : (2 ^ 11 * significand : Int).natAbs = significand * 2 ^ 11 := by
    omega
  have ratio : (((significand * 2 ^ 11 : Nat) : ℚ) / (1 : Nat)) =
      significand * 2 ^ (11 : Int) := by
    push_cast
    norm_num
  rw [digits, scale, ← ratio] at near
  rw [ofInt, size, decide_eq_false (by omega),
    ofRatio_of_near false finite (by omega) (by decide) near, ← nonnegative,
    ofFields_fields]

end Significand

/-- Rounding keeps just the multiples of `2 ^ 11`. -/
theorem value_ofInt_iff {integer : Int} (low : 2 ^ 63 ≤ integer)
    (high : integer < 2 ^ 64) :
    ((ofInt integer).isFinite = true ∧ (ofInt integer).value = integer) ↔
      2 ^ 11 ∣ integer := by
  refine ⟨fun exact => dvd_of_value low exact.2, ?_⟩
  rintro ⟨quotient, rfl⟩
  obtain ⟨significand, rfl⟩ := Int.eq_ofNat_of_zero_le (by omega : 0 ≤ quotient)
  have least : 2 ^ 52 ≤ significand := by omega
  have greatest : significand < 2 ^ 53 := by omega
  obtain ⟨finite, nonnegative, digits, scale⟩ :=
    ofSignificand_fields least greatest
  rw [ofInt_eq_ofSignificand least greatest, value_of_nonnegative nonnegative,
    digits, scale]
  refine ⟨finite, ?_⟩
  push_cast
  exact mul_comm _ _

end TypedGraphQL.Binary64
