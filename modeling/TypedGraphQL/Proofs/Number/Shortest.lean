import TypedGraphQL.Proofs.Number.Decimal

namespace TypedGraphQL

open Syntax

namespace Text

theorem withoutTrailingZeros_isPrefix (digits : List Char) :
    withoutTrailingZeros digits <+: digits := by
  have dropped := @List.dropWhile_suffix _ digits.reverse (· == '0')
  rw [← List.reverse_prefix, List.reverse_reverse] at dropped
  exact dropped

theorem withoutTrailingZeros_ne_nil {c : Char} {digits : List Char}
    (member : c ∈ digits) (nonzero : c ≠ '0') :
    withoutTrailingZeros digits ≠ [] := by
  intro empty
  have zeros := @List.any_dropWhile _ (· == '0') digits.reverse
  rw [List.reverse_eq_nil_iff.mp empty] at zeros
  simp only [List.any_nil, Bool.false_eq, Bool.not_eq_false',
    List.all_reverse, List.all_eq_true, beq_iff_eq] at zeros
  exact nonzero (zeros c member)

theorem withoutTrailingZeros_append (digits : List Char) :
    ∃ count, digits =
      withoutTrailingZeros digits ++ List.replicate count '0' := by
  refine ⟨(digits.reverse.takeWhile (· == '0')).length, ?_⟩
  have zeros : digits.reverse.takeWhile (· == '0') =
      List.replicate (digits.reverse.takeWhile (· == '0')).length '0' := by
    have all := @List.all_takeWhile _ (· == '0') digits.reverse
    rw [List.all_eq_true] at all
    exact List.eq_replicate_iff.mpr
      ⟨rfl, fun c member => by simpa using all c member⟩
  rw [withoutTrailingZeros, ← List.reverse_replicate, ← zeros,
    ← List.reverse_append, List.takeWhile_append_dropWhile, List.reverse_reverse]

end Text

namespace Binary64

theorem Decimal.digitText_eq_cons {decimal : Decimal}
    (nonzero : decimal.digits ≠ 0) :
    ∃ c others, decimal.digitText = c :: others ∧ c ≠ '0' ∧
      ∀ digit ∈ c :: others, digit.isDigit = true := by
  have front := head?_toDigits_ne_zero nonzero
  have written := (digits_toDigits decimal.digits).all
  have kept := Text.withoutTrailingZeros_isPrefix
    (Nat.toDigits 10 decimal.digits)
  rw [digitText]
  cases whole : Nat.toDigits 10 decimal.digits with
  | nil => exact absurd whole (by simp)
  | cons c others =>
      rw [whole] at front written kept
      have first : c ≠ '0' := by simpa using front
      cases found : Text.withoutTrailingZeros (c :: others) with
      | nil =>
          exact absurd found
            (Text.withoutTrailingZeros_ne_nil (List.mem_cons_self ..) first)
      | cons d digits =>
          rw [found] at kept
          obtain ⟨rfl, _⟩ := List.cons_prefix_cons.mp kept
          exact ⟨d, digits, rfl, first, fun digit member =>
            written digit (kept.subset member)⟩

theorem Decimal.digitsValue_digitText (decimal : Decimal) :
    (Text.digitsValue decimal.digitText : ℚ) *
        10 ^ (decimal.leading + 1 - decimal.digitText.length) =
      decimal.digits * 10 ^ decimal.exponent := by
  obtain ⟨count, whole⟩ := Text.withoutTrailingZeros_append
    (Nat.toDigits 10 decimal.digits)
  have value := Text.digitsValue_toDigits decimal.digits
  have length := congrArg List.length whole
  rw [whole, ← digitText, Text.digitsValue_append, Text.digitsValue_zeros,
    List.length_replicate, Nat.add_zero] at value
  rw [← digitText, List.length_append, List.length_replicate] at length
  rw [leading, length, ← value]
  push_cast
  rw [mul_assoc, ← zpow_natCast, ← zpow_add₀ (by norm_num)]
  congr 2
  omega

theorem significand_ne_zero {x : Binary64} (nonzero : x.magnitude ≠ 0) :
    x.significand ≠ 0 := by
  rw [significand]
  split
  · exact nonzero
  · omega

/-! Both ways of writing it have regular parts and keep the value. -/

/-- A regular number with a point or an exponent, of that sign and size. -/
structure IsFloat (numeral : Numeral) (sign : List Char) (size : ℚ) : Prop where
  regular : numeral.Regular
  sign_eq : numeral.sign = sign
  fractional : numeral.fraction ≠ [] ∨ numeral.exponent ≠ []
  size_eq : numeral.size = size

theorem size_eq_of_digitsValue {numeral : Numeral} {digits zeros : Nat}
    {exponent : Int}
    (value : Text.digitsValue numeral.digits = digits * 10 ^ zeros)
    (scale : numeral.scale = exponent - zeros) :
    numeral.size = digits * 10 ^ exponent := by
  rw [Numeral.size, value, scale]
  push_cast
  rw [mul_assoc, ← zpow_natCast, ← zpow_add₀ (by norm_num), add_sub_cancel]

theorem scale_of_exponent_nil {numeral : Numeral} (absent : numeral.exponent = []) :
    numeral.scale = -(numeral.fraction.drop 1).length := by
  rw [Numeral.scale, Numeral.power, absent]
  exact zero_sub _

theorem power_of_int {numeral : Numeral} {value : Int}
    (given : numeral.exponent = 'e' :: (toString value).toList) :
    numeral.power = value := by
  have parts := Numeral.Digits.splitSign_append
    (by split <;> simp : (if value < 0 then ['-'] else []) ∈ [[], ['-']])
    (digits_toDigits value.natAbs) []
  rw [List.append_nil, ← toList_toString_int] at parts
  simp only [Numeral.power, given, List.drop_succ_cons, List.drop_zero, parts,
    Text.digitsValue_toDigits]
  by_cases negative : value < 0
  · simp only [negative, if_true, beq_self_eq_true]
    omega
  · simp only [negative, if_false]
    rw [if_neg (by decide)]
    omega

section Writing

variable {sign : List Char} {c : Char} {others : List Char} {leading : Int}

theorem isDigit_append_zeros {digits : List Char} (count : Nat)
    (written : ∀ digit ∈ digits, digit.isDigit = true) :
    ∀ digit ∈ digits ++ List.replicate count '0', digit.isDigit = true := by
  intro digit member
  rcases List.mem_append.mp member with inDigits | zero
  · exact written digit inDigits
  · rw [List.eq_of_mem_replicate zero]
    rfl

theorem exists_positional_below_one (signed : sign ∈ [[], ['-']])
    (written : ∀ digit ∈ c :: others, digit.isDigit = true)
    (small : leading < 0) :
    ∃ numeral, IsFloat numeral sign (Text.digitsValue (c :: others) *
        10 ^ (leading + 1 - (c :: others).length)) ∧
      sign ++ positional (c :: others) leading = numeral.text := by
  have zeros := @isDigit_append_zeros [] (-leading - 1).toNat (by simp)
  have fraction : Digits
      (List.replicate (-leading - 1).toNat '0' ++ c :: others) := by
    refine ⟨by simp, fun digit member => ?_⟩
    exact (List.mem_append.mp member).elim (zeros digit) (written digit)
  refine ⟨⟨sign, ['0'], '.' :: _, []⟩,
    ⟨⟨signed, ⟨by simp, by simp⟩, .inl rfl, .inr ⟨_, rfl, fraction⟩, .inl rfl⟩,
      rfl, .inl (by simp), ?_⟩, ?_⟩
  · refine @size_eq_of_digitsValue _ _ 0 _ ?_ ?_
    · simp only [Numeral.digits, List.drop_succ_cons, List.drop_zero]
      rw [Text.digitsValue_append, Text.digitsValue_append,
        Text.digitsValue_zeros]
      simp [Text.digitsValue, Text.digitValue]
    · rw [scale_of_exponent_nil rfl]
      simp only [List.drop_succ_cons, List.drop_zero, List.length_append,
        List.length_replicate]
      omega
  · simp [positional, small, Numeral.text]

theorem exists_positional (signed : sign ∈ [[], ['-']]) (nonzero : c ≠ '0')
    (written : ∀ digit ∈ c :: others, digit.isDigit = true)
    (large : ¬ leading < 0) :
    ∃ numeral, IsFloat numeral sign (Text.digitsValue (c :: others) *
        10 ^ (leading + 1 - (c :: others).length)) ∧
      sign ++ positional (c :: others) leading = numeral.text := by
  let padded := others ++
    List.replicate (leading.toNat + 1 - (c :: others).length) '0'
  let fraction := if (padded.drop leading.toNat).isEmpty then ['0']
    else padded.drop leading.toNat
  have paddedDigits : ∀ digit ∈ c :: padded, digit.isDigit = true :=
    isDigit_append_zeros _ written
  have wholeDigits : Digits (c :: padded.take leading.toNat) := by
    refine ⟨by simp, fun digit member => paddedDigits digit ?_⟩
    exact List.mem_of_mem_take (i := leading.toNat + 1) member
  have fractionDigits : Digits fraction := by
    dsimp only [fraction]
    split
    next => exact ⟨by simp, by simp⟩
    next more =>
      refine ⟨by simpa using more, fun digit member => paddedDigits digit ?_⟩
      exact List.mem_cons_of_mem c (List.mem_of_mem_drop member)
  refine ⟨⟨sign, c :: padded.take leading.toNat, '.' :: fraction, []⟩,
    ⟨⟨signed, wholeDigits, .inr (by simpa using nonzero),
      .inr ⟨_, rfl, fractionDigits⟩, .inl rfl⟩, rfl, .inl (by simp), ?_⟩, ?_⟩
  · by_cases short : others.length ≤ leading.toNat
    · have whole : padded.length = leading.toNat := by
        simp only [padded, List.length_append, List.length_replicate,
          List.length_cons]
        omega
      have point : fraction = ['0'] := by
        simp [fraction, whole]
      refine @size_eq_of_digitsValue _ _
        (leading.toNat + 1 - (c :: others).length + 1) _ ?_ ?_
      · simp only [Numeral.digits, point, List.drop_succ_cons, List.drop_zero,
          List.take_of_length_le whole.le]
        rw [Text.digitsValue_append, ← List.cons_append,
          Text.digitsValue_append, Text.digitsValue_zeros,
          List.length_replicate, Nat.add_zero, Nat.pow_succ, Nat.mul_assoc]
        rfl
      · rw [scale_of_exponent_nil rfl]
        simp only [point, List.drop_succ_cons, List.drop_zero,
          List.length_cons, List.length_nil]
        omega
    · have unpadded : padded = others := by
        have none : leading.toNat + 1 - (c :: others).length = 0 := by
          rw [List.length_cons]
          omega
        simp only [padded, none, List.replicate_zero, List.append_nil]
      have rest : fraction = others.drop leading.toNat := by
        simp only [fraction, unpadded]
        rw [if_neg (by simpa using short)]
      refine @size_eq_of_digitsValue _ _ 0 _ ?_ ?_
      · simp only [Numeral.digits, rest, unpadded, List.drop_succ_cons,
          List.drop_zero, List.cons_append, List.take_append_drop]
        omega
      · rw [scale_of_exponent_nil rfl]
        simp only [rest, List.drop_succ_cons, List.drop_zero,
          List.length_drop, List.length_cons]
        omega
  · simp [positional, large, Numeral.text, padded, fraction]

theorem exists_scientific (signed : sign ∈ [[], ['-']]) (nonzero : c ≠ '0')
    (written : ∀ digit ∈ c :: others, digit.isDigit = true) (leading : Int) :
    ∃ numeral, IsFloat numeral sign (Text.digitsValue (c :: others) *
        10 ^ (leading + 1 - (c :: others).length)) ∧
      sign ++ scientific (c :: others) leading = numeral.text := by
  have digit : c.isDigit = true := written c (List.mem_cons_self ..)
  have fraction : (if others = [] then [] else '.' :: others) = [] ∨
      ∃ digits, (if others = [] then [] else '.' :: others) = '.' :: digits ∧
        Digits digits := by
    split
    next => exact .inl rfl
    next more =>
      exact .inr ⟨_, rfl, more, fun digit member =>
        written digit (List.mem_cons_of_mem c member)⟩
  refine ⟨⟨sign, [c], if others = [] then [] else '.' :: others,
    'e' :: (toString leading).toList⟩,
    ⟨⟨signed, ⟨by simp, by simpa using digit⟩, .inr (by simpa using nonzero),
      fraction, ?_⟩, rfl, .inr (by simp), ?_⟩, ?_⟩
  · right
    rw [toList_toString_int]
    exact ⟨_, by split <;> simp, _, rfl, digits_toDigits _⟩
  · have tail : (if others = [] then [] else '.' :: others).drop 1 = others := by
      split
      next none => rw [none, List.drop_nil]
      next => rfl
    refine @size_eq_of_digitsValue _ _ 0 _ ?_ ?_
    · simp [Numeral.digits, tail]
    · rw [Numeral.scale, power_of_int rfl, tail, List.length_cons]
      omega
  · cases others <;> simp [scientific, Numeral.text]

end Writing

theorem digits_shortest_ne_zero {x : Binary64} (finite : x.isFinite = true)
    (nonzero : x.magnitude ≠ 0) : x.shortest.digits ≠ 0 :=
  (leading_of_near finite (significand_ne_zero nonzero)
    (near_shortest finite (significand_ne_zero nonzero))).1

theorem exists_text {x : Binary64} (finite : x.isFinite = true) :
    ∃ numeral, IsFloat numeral (if x.isNegative then ['-'] else [])
        (if x.magnitude = 0 then 0
          else x.shortest.digits * 10 ^ x.shortest.exponent) ∧
      x.text.toList = numeral.text := by
  have number : x.isNaN = false := by
    simp only [isFinite, isNaN, decide_eq_true_eq, decide_eq_false_iff_not]
      at finite ⊢
    omega
  have signed : (if x.isNegative then ['-'] else []) ∈ [[], ['-']] := by
    split <;> simp
  simp only [text, number, finite, Bool.false_eq_true, if_false, if_true,
    String.toList_ofList, finiteText]
  generalize (if x.isNegative then ['-'] else []) = sign at signed ⊢
  by_cases zero : x.magnitude = 0
  · rw [if_pos zero, if_pos zero]
    refine ⟨⟨sign, ['0'], ['.', '0'], []⟩,
      ⟨⟨signed, ⟨by simp, by simp⟩, .inl rfl, .inr ⟨_, rfl, ⟨by simp, by simp⟩⟩,
        .inl rfl⟩, rfl, .inl (by simp), ?_⟩, rfl⟩
    simp [Numeral.size, Numeral.digits, Text.digitsValue, Text.digitValue]
  · obtain ⟨c, others, digits, first, written⟩ :=
      Decimal.digitText_eq_cons (digits_shortest_ne_zero finite zero)
    rw [if_neg zero, if_neg zero, ← Decimal.digitsValue_digitText, digits]
    split
    · exact exists_scientific signed first written _
    · by_cases small : x.shortest.leading < 0
      · exact exists_positional_below_one signed written small
      · exact exists_positional signed first written small

theorem ofDecimal_of_isFloat {x : Binary64} (finite : x.isFinite = true)
    {numeral : Numeral}
    (size : numeral.size = if x.magnitude = 0 then (0 : ℚ)
      else x.shortest.digits * 10 ^ x.shortest.exponent) :
    ofDecimal x.isNegative (Text.digitsValue numeral.digits) numeral.scale =
      x := by
  rw [Numeral.size] at size
  by_cases zero : x.magnitude = 0
  · rw [if_pos zero] at size
    have none : Text.digitsValue numeral.digits = 0 := by
      have power : (10 : ℚ) ^ numeral.scale ≠ 0 := by positivity
      exact_mod_cast (mul_eq_zero_iff_right power).mp size
    rw [ofDecimal, if_pos (.inl none), Binary64.zero, ← zero, ofFields_fields]
  · have significant := significand_ne_zero zero
    have near := near_shortest finite significant
    rw [if_neg zero] at size
    rw [← size] at near
    rw [ofDecimal_of_near _ finite significant near, ofFields_fields]

/-- The text of a finite number is a literal of that number. -/
theorem number?_text {x : Binary64} (finite : x.isFinite = true) :
    number? x.text.toList = some (.float x, []) := by
  obtain ⟨numeral, float, written⟩ := exists_text finite
  have negative : (numeral.sign == ['-']) = x.isNegative := by
    rw [float.sign_eq]
    cases x.isNegative <;> rfl
  have fractional : ¬ (numeral.fraction = [] ∧ numeral.exponent = []) :=
    not_and_or.mpr float.fractional
  have read := float.regular.ofText?
  rw [Numeral.text, ← List.append_assoc, ← List.append_assoc, negative,
    ofDecimal_of_isFloat finite float.size_eq] at read
  simp only [number?, written, float.regular.split, Numeral.token?,
    float.regular.isWellFormed, if_neg fractional, read]
  rfl

end Binary64

end TypedGraphQL
