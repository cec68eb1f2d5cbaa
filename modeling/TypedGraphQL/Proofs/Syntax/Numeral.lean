import TypedGraphQL.Proofs.Syntax.Token

namespace TypedGraphQL

namespace Syntax

structure Digits (text : List Char) : Prop where
  ne_nil : text ≠ []
  all : ∀ c ∈ text, c.isDigit = true

theorem digits_toDigits (n : Nat) : Digits (Nat.toDigits 10 n) where
  ne_nil := by simp
  all _ member := Nat.isDigit_of_mem_toDigits (by decide) (by decide) member

def EndsDigits (rest : List Char) : Prop :=
  ∀ c ∈ rest.head?, c.isDigit = false

theorem Digits.takeWhile_append {text rest : List Char} (digits : Digits text)
    (ends : EndsDigits rest) : (text ++ rest).takeWhile Char.isDigit = text := by
  rw [List.takeWhile_append_of_pos digits.all]
  cases rest with
  | nil => simp
  | cons c rest => simp [ends c rfl]

theorem Digits.dropWhile_append {text rest : List Char} (digits : Digits text)
    (ends : EndsDigits rest) : (text ++ rest).dropWhile Char.isDigit = rest := by
  rw [List.dropWhile_append_of_pos digits.all]
  cases rest with
  | nil => rfl
  | cons c rest => simp [ends c rfl]

theorem head?_toDigits_ne_zero {n : Nat} (positive : n ≠ 0) :
    (Nat.toDigits 10 n).head? ≠ some '0' := by
  induction n using Nat.strongRecOn with
  | ind n ih =>
      by_cases small : n < 10
      · rw [Nat.toDigits_of_lt_base small]
        simpa using positive
      · rw [Nat.toDigits_of_base_le (by decide) (by omega), List.head?_append]
        have front := ih (n / 10) (by omega) (by omega)
        cases found : (Nat.toDigits 10 (n / 10)).head? with
        | none => exact absurd (List.head?_eq_none_iff.mp found) (by simp)
        | some c =>
            rw [found] at front
            exact front

theorem toList_toString_int (value : Int) :
    (toString value).toList =
      (if value < 0 then ['-'] else []) ++ Nat.toDigits 10 value.natAbs := by
  rw [Int.toString_eq_repr, Int.repr_eq_if]
  by_cases negative : value < 0
  · have size : (-value).toNat = value.natAbs := by omega
    rw [if_neg (by omega), if_pos negative, String.toList_append,
      Nat.toList_repr, size]
    rfl
  · have size : value.toNat = value.natAbs := by omega
    rw [if_pos (by omega), if_neg negative, Nat.toList_repr, size,
      List.nil_append]

namespace Numeral

def text (numeral : Numeral) : List Char :=
  numeral.sign ++ (numeral.whole ++ (numeral.fraction ++ numeral.exponent))

structure Regular (numeral : Numeral) : Prop where
  sign : numeral.sign ∈ [[], ['-']]
  whole : Digits numeral.whole
  unpadded : numeral.whole = ['0'] ∨ numeral.whole.head? ≠ some '0'
  fraction : numeral.fraction = [] ∨
    ∃ digits, numeral.fraction = '.' :: digits ∧ Digits digits
  exponent : numeral.exponent = [] ∨
    ∃ sign ∈ [[], ['-']], ∃ digits,
      numeral.exponent = 'e' :: (sign ++ digits) ∧ Digits digits

theorem splitSign_digits {signs sign text rest : List Char}
    (signed : sign ∈ [[], ['-']]) (listed : '-' ∈ signs)
    (digits : Digits text) (unsigned : ∀ c ∈ signs, c.isDigit = false) :
    splitSign signs (sign ++ (text ++ rest)) = (sign, text ++ rest) := by
  simp only [List.mem_cons, List.not_mem_nil, or_false] at signed
  rcases signed with rfl | rfl
  · cases text with
    | nil => exact absurd rfl digits.ne_nil
    | cons c others =>
        have digit := digits.all c (by simp)
        have notSign : c ∉ signs := by
          intro member
          rw [unsigned c member] at digit
          contradiction
        simp [splitSign, notSign]
  · simp [splitSign, listed]

variable {numeral : Numeral}

theorem Regular.endsDigits_exponent (regular : Regular numeral) :
    EndsDigits numeral.exponent := by
  rcases regular.exponent with absent | ⟨_, _, _, given, _⟩
  · simp [absent, EndsDigits]
  · simp [given, EndsDigits]

theorem Regular.endsDigits_fraction (regular : Regular numeral) :
    EndsDigits (numeral.fraction ++ numeral.exponent) := by
  rcases regular.fraction with absent | ⟨_, given, _⟩
  · rw [absent, List.nil_append]
    exact regular.endsDigits_exponent
  · simp [given, EndsDigits]

theorem Regular.splitExponent (regular : Regular numeral) :
    splitExponent numeral.exponent = (numeral.exponent, []) := by
  rcases regular.exponent with absent | ⟨sign, signed, digits, given, written⟩
  · rw [absent]
    rfl
  · have unsigned := @splitSign_digits ['+', '-'] sign digits [] signed
      (by simp) written (by simp)
    have taken := @Digits.takeWhile_append digits [] written (by simp [EndsDigits])
    have dropped := @Digits.dropWhile_append digits [] written
      (by simp [EndsDigits])
    rw [List.append_nil] at unsigned taken dropped
    rw [given, Numeral.splitExponent, if_pos (.inl rfl), unsigned]
    simp only [taken, dropped, List.cons_append]

theorem Regular.splitFraction (regular : Regular numeral) :
    splitFraction (numeral.fraction ++ numeral.exponent) =
      (numeral.fraction, numeral.exponent) := by
  rcases regular.fraction with absent | ⟨digits, given, written⟩
  · rw [absent]
    rcases regular.exponent with absent | ⟨_, _, _, given, _⟩
    · rw [absent]
      rfl
    · rw [given]
      rfl
  · rw [given, List.cons_append, Numeral.splitFraction, if_pos rfl,
      written.takeWhile_append regular.endsDigits_exponent,
      written.dropWhile_append regular.endsDigits_exponent]

theorem Regular.split (regular : Regular numeral) :
    split numeral.text = (numeral, []) := by
  have unsigned := @splitSign_digits ['-'] _ _
    (numeral.fraction ++ numeral.exponent) regular.sign (by simp)
    regular.whole (by simp)
  simp only [Numeral.split, text, unsigned,
    regular.whole.takeWhile_append regular.endsDigits_fraction,
    regular.whole.dropWhile_append regular.endsDigits_fraction,
    regular.splitFraction, regular.splitExponent]

theorem Regular.isWellFormed (regular : Regular numeral) :
    numeral.isWellFormed = true := by
  have whole : (numeral.whole == ['0'] ||
      (numeral.whole != [] && numeral.whole.head? != some '0')) = true := by
    rcases regular.unpadded with zero | unpadded
    · simp [zero]
    · simp [unpadded, regular.whole.ne_nil]
  have fraction : (numeral.fraction.length != 1) = true := by
    rcases regular.fraction with absent | ⟨_, given, written⟩
    · simp [absent]
    · simp [given, written.ne_nil]
  have exponent : numeral.exponent.getLast?.all Char.isDigit = true := by
    rcases regular.exponent with absent | ⟨_, _, digits, given, written⟩
    · simp [absent]
    · have last : numeral.exponent.getLast? =
          some (digits.getLast written.ne_nil) := by
        rw [given, ← List.cons_append, List.getLast?_append,
          List.getLast?_eq_some_getLast written.ne_nil, Option.some_or]
      rw [last]
      exact written.all _ (List.getLast_mem _)
  rw [Numeral.isWellFormed, whole, fraction, exponent]
  rfl

theorem regular_toDigits {sign : List Char} (signed : sign ∈ [[], ['-']])
    (n : Nat) : Regular ⟨sign, Nat.toDigits 10 n, [], []⟩ where
  sign := signed
  whole := digits_toDigits n
  unpadded := by
    by_cases zero : n = 0
    · exact .inl (by rw [zero]; rfl)
    · exact .inr (head?_toDigits_ne_zero zero)
  fraction := .inl rfl
  exponent := .inl rfl

end Numeral

end Syntax

end TypedGraphQL
