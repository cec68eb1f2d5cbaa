import TypedGraphQL.Number.Decimal
import TypedGraphQL.Proofs.Number.Interval
import TypedGraphQL.Proofs.Syntax.Numeral

namespace TypedGraphQL

namespace Text

theorem digitsValue_eq (digits : List Char) :
    digitsValue digits = Nat.ofDigitChars 10 digits 0 := by
  simp only [digitsValue, digitValue, Nat.ofDigitChars, Nat.mul_comm]

theorem digitsValue_append (digits others : List Char) :
    digitsValue (digits ++ others) =
      digitsValue digits * 10 ^ others.length + digitsValue others := by
  rw [digitsValue_eq, digitsValue_eq, digitsValue_eq, Nat.ofDigitChars_append,
    Nat.ofDigitChars_eq_ofDigitChars_zero, Nat.mul_comm]

theorem digitsValue_zeros (count : Nat) :
    digitsValue (List.replicate count '0') = 0 := by
  rw [digitsValue_eq, Nat.ofDigitChars_replicate_zero, Nat.mul_zero]

theorem digitsValue_toDigits (n : Nat) : digitsValue (Nat.toDigits 10 n) = n := by
  rw [digitsValue_eq, Nat.ofDigitChars_ten_toDigits]

end Text

namespace Binary64

theorem lt_ten_pow_length_toDigits (n : Nat) :
    n < 10 ^ (Nat.toDigits 10 n).length :=
  (Nat.length_toDigits_le_iff (by decide) Nat.length_toDigits_pos).mp
    (Nat.le_refl _)

theorem ten_pow_length_toDigits_le {n : Nat} (nonzero : n ≠ 0) :
    10 ^ ((Nat.toDigits 10 n).length - 1) ≤ n := by
  by_cases single : (Nat.toDigits 10 n).length = 1
  · rw [single]
    exact Nat.pos_of_ne_zero nonzero
  · have several := @Nat.length_toDigits_pos 10 n
    rw [← Nat.not_lt, ← Nat.length_toDigits_le_iff (by decide) (by omega)]
    omega

theorem Near.zpow_le {x : Binary64} {ratio : ℚ} (near : x.Near ratio)
    (nonzero : x.significand ≠ 0) : 2 ^ (x.exponent - 1) ≤ ratio := by
  have one_le : (1 : ℚ) ≤ x.significand := by
    exact_mod_cast Nat.one_le_iff_ne_zero.mpr nonzero
  have lower := near.lower
  have gap := x.gap_le
  have scaled : 1 / 2 ≤ ratio / 2 ^ x.exponent := by linarith
  rw [le_div_iff₀ (by positivity)] at scaled
  rw [zpow_sub_one₀ two_ne_zero]
  linarith

theorem leading_of_near {x : Binary64} (finite : x.isFinite = true)
    (nonzero : x.significand ≠ 0) {digits : Nat} {exponent : Int}
    (near : x.Near (digits * 10 ^ exponent)) :
    digits ≠ 0 ∧ -400 ≤ exponent + (Nat.toDigits 10 digits).length ∧
      exponent + (Nat.toDigits 10 digits).length ≤ 400 := by
  have unit : (0 : ℚ) < 10 ^ exponent := by positivity
  have positive : (0 : ℚ) < digits :=
    (mul_pos_iff_of_pos_right unit).mp (near.pos nonzero)
  have digitsNonzero : digits ≠ 0 := by
    rintro rfl
    exact absurd positive (by simp)
  have least := x.le_exponent
  have greatest := exponent_le finite
  have one_lt_ten : (1 : ℚ) < 10 := by norm_num
  have shorter : (digits : ℚ) * 10 ^ exponent <
      10 ^ (exponent + (Nat.toDigits 10 digits).length) := by
    rw [zpow_add₀ (by norm_num), mul_comm (10 ^ exponent), zpow_natCast]
    exact mul_lt_mul_of_pos_right
      (by exact_mod_cast lt_ten_pow_length_toDigits digits) unit
  have longer : (10 : ℚ) ^ (exponent +
      ((Nat.toDigits 10 digits).length - 1 : Nat)) ≤ digits * 10 ^ exponent := by
    rw [zpow_add₀ (by norm_num), mul_comm (10 ^ exponent), zpow_natCast]
    exact mul_le_mul_of_nonneg_right
      (by exact_mod_cast ten_pow_length_toDigits_le digitsNonzero) unit.le
  have low : (-400 : Int) < exponent + (Nat.toDigits 10 digits).length := by
    rw [← zpow_lt_zpow_iff_right₀ one_lt_ten]
    calc (10 : ℚ) ^ (-400 : Int)
      _ ≤ 2 ^ (-1075 : Int) :=
        ten_zpow_le_two_zpow (by decide) (by decide) (by decide)
      _ ≤ 2 ^ (x.exponent - 1) := zpow_le_zpow_right₀ one_le_two (by omega)
      _ ≤ digits * 10 ^ exponent := near.zpow_le nonzero
      _ < 10 ^ (exponent + (Nat.toDigits 10 digits).length) := shorter
  have high : exponent + ((Nat.toDigits 10 digits).length - 1 : Nat) <
      (400 : Int) := by
    have wide : (2 : ℚ) ^ (1024 : Int) ≤ 10 ^ (400 : Int) := by
      have narrow := @ten_zpow_le_two_zpow (-400) (-1024) (by decide) (by decide)
        (by decide)
      rw [zpow_neg, zpow_neg, inv_le_inv₀ (by positivity) (by positivity)]
        at narrow
      exact narrow
    rw [← zpow_lt_zpow_iff_right₀ one_lt_ten]
    calc (10 : ℚ) ^ (exponent + ((Nat.toDigits 10 digits).length - 1 : Nat))
      _ ≤ digits * 10 ^ exponent := longer
      _ < 2 ^ (x.exponent + 53) := near.lt_zpow
      _ ≤ 2 ^ (1024 : Int) := zpow_le_zpow_right₀ one_le_two (by omega)
      _ ≤ 10 ^ (400 : Int) := wide
  exact ⟨digitsNonzero, by omega, by omega⟩

/-- A decimal near to a finite number is read as it. -/
theorem ofDecimal_of_near {x : Binary64} (negative : Bool)
    (finite : x.isFinite = true) (nonzero : x.significand ≠ 0) {digits : Nat}
    {exponent : Int} (near : x.Near (digits * 10 ^ exponent)) :
    ofDecimal negative digits exponent = ofFields negative x.magnitude := by
  obtain ⟨digitsNonzero, low, high⟩ := leading_of_near finite nonzero near
  simp only [ofDecimal]
  rw [if_neg (by omega), if_neg (by omega)]
  apply ofRatio_of_near negative finite nonzero (Nat.pow_pos (by decide))
  rw [zpow_eq_div (by norm_num), ← mul_div_assoc] at near
  exact_mod_cast near

end Binary64

namespace Syntax.Numeral

def digits (numeral : Numeral) : List Char :=
  numeral.whole ++ numeral.fraction.drop 1

def power (numeral : Numeral) : Int :=
  let (negative, digits) := Text.splitSign (numeral.exponent.drop 1)
  if negative then -Text.digitsValue digits else Text.digitsValue digits

def scale (numeral : Numeral) : Int :=
  numeral.power - (numeral.fraction.drop 1).length

variable {numeral : Numeral}

theorem Digits.splitSign_append {sign digits : List Char}
    (signed : sign ∈ [[], ['-']]) (written : Digits digits) (rest : List Char) :
    Text.splitSign (sign ++ (digits ++ rest)) =
      (sign == ['-'], digits ++ rest) := by
  simp only [List.mem_cons, List.not_mem_nil, or_false] at signed
  rcases signed with rfl | rfl
  · obtain ⟨c, others, rfl⟩ := List.exists_cons_of_ne_nil written.ne_nil
    have digit := written.all c (List.mem_cons_self ..)
    have unsigned : c ≠ '-' ∧ c ≠ '+' := by
      constructor <;> rintro rfl <;> contradiction
    simp [Text.splitSign, unsigned]
  · rfl

theorem Regular.exponentPart? (regular : Regular numeral) :
    Binary64.exponentPart? numeral.exponent = some numeral.power := by
  rcases regular.exponent with absent | ⟨sign, signed, digits, given, written⟩
  · rw [power, absent]
    rfl
  · have parts := Digits.splitSign_append signed written []
    rw [List.append_nil] at parts
    have all : digits.all Char.isDigit = true := List.all_eq_true.mpr written.all
    simp only [power, given, List.drop_succ_cons, List.drop_zero,
      Binary64.exponentPart?, parts, all]
    simp [written.ne_nil]

def size (numeral : Numeral) : ℚ :=
  Text.digitsValue numeral.digits * 10 ^ numeral.scale

theorem Regular.unsignedText? (regular : Regular numeral) (negative : Bool) :
    Binary64.unsignedText? negative
        (numeral.whole ++ (numeral.fraction ++ numeral.exponent)) =
      some (Binary64.ofDecimal negative (Text.digitsValue numeral.digits)
        numeral.scale) := by
  have exponent := regular.exponentPart?
  simp only [Binary64.unsignedText?, Numeral.digits, scale,
    regular.whole.takeWhile_append regular.endsDigits_fraction,
    regular.whole.dropWhile_append regular.endsDigits_fraction]
  rcases regular.fraction with absent | ⟨digits, given, written⟩
  · rcases regular.exponent with none | ⟨_, _, _, some, _⟩
    · rw [none] at exponent
      simp [absent, none, regular.whole.ne_nil, exponent]
    · rw [some] at exponent
      simp [absent, some, regular.whole.ne_nil, exponent]
  · simp [given, written.takeWhile_append regular.endsDigits_exponent,
      written.dropWhile_append regular.endsDigits_exponent,
      regular.whole.ne_nil, exponent]

theorem toLower_of_isDigit {c : Char} (digit : c.isDigit = true) :
    c.toLower = c := by
  have kept : ∀ c : Char, c.toNat < 58 → c.isDigit = true → c.toLower = c :=
    Syntax.forall_toNat_lt (by decide)
  have upTo := (Char.isDigit_iff_toNat.mp digit).2
  exact kept c (Nat.lt_succ_of_le upTo) digit

theorem Regular.ofText? (regular : Regular numeral) :
    Binary64.ofText? (String.ofList numeral.text) =
      some (Binary64.ofDecimal (numeral.sign == ['-'])
        (Text.digitsValue numeral.digits) numeral.scale) := by
  obtain ⟨c, others, whole⟩ := List.exists_cons_of_ne_nil regular.whole.ne_nil
  have digit : c.isDigit = true := regular.whole.all c (by simp [whole])
  have noWord : c ≠ 'i' ∧ c ≠ 'n' := by
    constructor <;> rintro rfl <;> contradiction
  have unsigned := regular.unsignedText? (numeral.sign == ['-'])
  rw [Binary64.ofText?, String.toList_ofList, text,
    Digits.splitSign_append regular.sign regular.whole]
  rw [whole] at unsigned ⊢
  simp [toLower_of_isDigit digit, noWord] at unsigned ⊢
  exact unsigned

end Syntax.Numeral

end TypedGraphQL
