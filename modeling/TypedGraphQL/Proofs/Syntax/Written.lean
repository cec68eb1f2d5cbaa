import TypedGraphQL.Argument.Literal
import TypedGraphQL.Proofs.Syntax.Numeral

namespace TypedGraphQL.Syntax

def boundaries : List Char :=
  [' ', ',', ':', '(', ')', ']', '\x7d']

/-- The text is over or goes on with a character that no token goes on with. -/
def Boundary (rest : List Char) : Prop :=
  ∀ c ∈ rest.head?, c ∈ boundaries

theorem Boundary.nil : Boundary [] := by
  simp [Boundary]

theorem Boundary.cons {c : Char} {rest : List Char} (member : c ∈ boundaries) :
    Boundary (c :: rest) := by
  simpa [Boundary] using member

section Scanning

variable {p : Char → Bool} {text rest : List Char}

theorem Boundary.head {c : Char} (boundary : Boundary (c :: rest))
    (stops : boundaries.any p = false) : p c = false := by
  rw [List.any_eq_false] at stops
  exact Bool.eq_false_iff.mpr (stops c (boundary c rfl))

theorem Boundary.takeWhile (boundary : Boundary rest)
    (stops : boundaries.any p = false) : rest.takeWhile p = [] := by
  cases rest with
  | nil => rfl
  | cons c rest =>
      rw [List.takeWhile_cons, boundary.head stops]
      rfl

theorem Boundary.dropWhile (boundary : Boundary rest)
    (stops : boundaries.any p = false) : rest.dropWhile p = rest := by
  cases rest with
  | nil => rfl
  | cons c rest =>
      rw [List.dropWhile_cons, boundary.head stops]
      rfl

theorem Boundary.takeWhile_append (boundary : Boundary rest)
    (stops : boundaries.any p = false) :
    (text ++ rest).takeWhile p = text.takeWhile p := by
  rw [List.takeWhile_append, boundary.takeWhile stops, List.append_nil]
  split
  next full =>
    exact ((List.takeWhile_prefix p).eq_of_length full).symm
  next => rfl

theorem Boundary.dropWhile_append (boundary : Boundary rest)
    (stops : boundaries.any p = false) :
    (text ++ rest).dropWhile p = text.dropWhile p ++ rest := by
  rw [List.dropWhile_append, boundary.dropWhile stops]
  split
  next empty => rw [List.isEmpty_iff.mp empty, List.nil_append]
  next => rfl

end Scanning

theorem unignored_cons {c : Char} {rest : List Char}
    (visible : isIgnored c = false) (notComment : c ≠ '#') :
    unignored false (c :: rest) = c :: rest := by
  simp [unignored, visible, notComment]

theorem token?_blank (rest : List Char) :
    token? (' ' :: rest) = token? rest := by
  simp [token?, unignored, isIgnored]

theorem token?_comma (rest : List Char) :
    token? (',' :: rest) = token? rest := by
  simp [token?, unignored, isIgnored]

theorem isIgnored_eq_false {c : Char} (visible : isNameContinue c = true) :
    isIgnored c = false := by
  have hidden : [' ', '\t', '\n', '\r', ',', '\uFEFF'].any isNameContinue =
      false := rfl
  rw [List.any_eq_false] at hidden
  apply Bool.eq_false_iff.mpr
  intro ignored
  exact hidden c (List.contains_iff_mem.mp ignored) visible

theorem ne_number_sign {c : Char} (visible : isNameContinue c = true) :
    c ≠ '#' := by
  rintro rfl
  have hidden : isNameContinue '#' = false := rfl
  rw [visible] at hidden
  contradiction

theorem token?_name {text : String} {rest : List Char}
    (named : isName text = true) (boundary : Boundary rest) :
    token? (text.toList ++ rest) = some (.name text, rest) := by
  rw [isName] at named
  split at named
  · contradiction
  next c others found =>
    simp only [Bool.and_eq_true, List.all_eq_true] at named
    obtain ⟨start, goesOn⟩ := named
    have continues : isNameContinue c = true := by
      rw [isNameContinue, start, Bool.true_or]
    have whole : String.ofList (c :: others) = text := by
      rw [← found, String.ofList_toList]
    have stops : boundaries.any isNameContinue = false := rfl
    rw [found, List.cons_append, token?,
      unignored_cons (isIgnored_eq_false continues) (ne_number_sign continues)]
    simp only [start, if_true, List.takeWhile_append_of_pos goesOn,
      List.dropWhile_append_of_pos goesOn, boundary.takeWhile stops,
      boundary.dropWhile stops, List.append_nil, whole]

/-! Numbers -/

namespace Numeral

theorem splitSign_append {signs text rest : List Char}
    (boundary : Boundary rest)
    (stops : boundaries.any signs.contains = false) :
    splitSign signs (text ++ rest) =
      ((splitSign signs text).1, (splitSign signs text).2 ++ rest) := by
  cases text with
  | nil =>
      cases rest with
      | nil => rfl
      | cons c rest =>
          simp only [List.nil_append, splitSign, boundary.head stops,
            Bool.false_eq_true, if_false]
  | cons c text =>
      rw [List.cons_append, splitSign, splitSign]
      split <;> rfl

theorem stops_isDigit : boundaries.any Char.isDigit = false := rfl

theorem splitFraction_append {text rest : List Char}
    (boundary : Boundary rest) :
    splitFraction (text ++ rest) =
      ((splitFraction text).1, (splitFraction text).2 ++ rest) := by
  cases text with
  | nil =>
      cases rest with
      | nil => rfl
      | cons c rest =>
          have notPoint : (c == '.') = false :=
            @Boundary.head (· == '.') _ _ boundary rfl
          rw [beq_eq_false_iff_ne] at notPoint
          simp only [List.nil_append, splitFraction, if_neg notPoint]
  | cons c text =>
      rw [List.cons_append, splitFraction, splitFraction]
      split
      · rw [boundary.takeWhile_append stops_isDigit,
          boundary.dropWhile_append stops_isDigit]
      · rfl

theorem splitExponent_append {text rest : List Char}
    (boundary : Boundary rest) :
    splitExponent (text ++ rest) =
      ((splitExponent text).1, (splitExponent text).2 ++ rest) := by
  cases text with
  | nil =>
      cases rest with
      | nil => rfl
      | cons c rest =>
          have notLetter : decide (c = 'e' ∨ c = 'E') = false :=
            @Boundary.head (fun c => decide (c = 'e' ∨ c = 'E')) _ _ boundary rfl
          rw [decide_eq_false_iff_not] at notLetter
          simp only [List.nil_append, splitExponent, if_neg notLetter]
  | cons c text =>
      rw [List.cons_append, splitExponent, splitExponent]
      split
      · rw [splitSign_append boundary rfl]
        simp only [boundary.takeWhile_append stops_isDigit,
          boundary.dropWhile_append stops_isDigit]
      · rfl

theorem split_append {text rest : List Char} (boundary : Boundary rest) :
    split (text ++ rest) = ((split text).1, (split text).2 ++ rest) := by
  have unsigned := @splitSign_append ['-'] text rest boundary rfl
  simp only [split, unsigned, boundary.dropWhile_append stops_isDigit,
    boundary.takeWhile_append stops_isDigit, splitFraction_append boundary,
    splitExponent_append boundary]

end Numeral

theorem number?_append {text rest : List Char} {token : Token}
    (read : number? text = some (token, [])) (boundary : Boundary rest) :
    number? (text ++ rest) = some (token, rest) := by
  have ends : rest.head?.any (fun c => isNameStart c || c == '.') = false := by
    cases rest with
    | nil => rfl
    | cons c rest =>
        exact @Boundary.head (fun c => isNameStart c || c == '.') _ _ boundary
          rfl
  simp only [number?] at read
  split at read
  · contradiction
  · obtain ⟨_, accepted, same⟩ := Option.map_eq_some_iff.mp read
    simp only [Prod.mk.injEq] at same
    obtain ⟨rfl, nothing⟩ := same
    simp only [number?, Numeral.split_append boundary, nothing, List.nil_append,
      ends, Bool.false_eq_true, if_false, accepted, Option.map_some]

theorem isNameStart_eq_false {c : Char} (digit : c.isDigit = true) :
    isNameStart c = false := by
  have none : ∀ c : Char, c.toNat < 58 → c.isDigit = true →
      isNameStart c = false := forall_toNat_lt (by decide)
  have upTo := (Char.isDigit_iff_toNat.mp digit).2
  exact none c (Nat.lt_succ_of_le upTo) digit

theorem exists_head_of_number? {text rest : List Char} {token : Token}
    (read : number? text = some (token, rest)) :
    ∃ c others, text = c :: others ∧ (c.isDigit = true ∨ c = '-') := by
  cases text with
  | nil => contradiction
  | cons c others =>
      refine ⟨c, others, rfl, ?_⟩
      by_cases minus : c = '-'
      · exact .inr minus
      · left
        simp only [number?] at read
        split at read
        · contradiction
        · obtain ⟨_, accepted, -⟩ := Option.map_eq_some_iff.mp read
          have whole := Numeral.whole_ne_nil_of_token? accepted
          simp only [Numeral.split, Numeral.splitSign, List.contains_cons,
            List.contains_nil, Bool.or_false, beq_iff_eq, minus, if_false]
            at whole
          rw [List.takeWhile_cons] at whole
          split at whole
          · assumption
          · exact absurd rfl whole

theorem visible_of_numberStart {c : Char}
    (start : c.isDigit = true ∨ c = '-') :
    isNameStart c = false ∧ isIgnored c = false ∧ c ≠ '#' := by
  rcases start with digit | rfl
  · have continues : isNameContinue c = true := by
      rw [isNameContinue, digit, Bool.or_true]
    exact ⟨isNameStart_eq_false digit, isIgnored_eq_false continues,
      ne_number_sign continues⟩
  · exact ⟨rfl, rfl, by decide⟩

theorem token?_number {text rest : List Char} {token : Token}
    (read : number? text = some (token, [])) (boundary : Boundary rest) :
    token? (text ++ rest) = some (token, rest) := by
  obtain ⟨c, others, rfl, start⟩ := exists_head_of_number? read
  have appended := number?_append read boundary
  rw [List.cons_append] at appended ⊢
  obtain ⟨notName, visible, notComment⟩ := visible_of_numberStart start
  rw [token?, unignored_cons visible notComment]
  simp only [notName, Bool.false_eq_true, if_false, if_pos start, appended]

theorem number?_int (value : Int) :
    number? (toString value).toList = some (.int value, []) := by
  have regular := @Numeral.regular_toDigits (if value < 0 then ['-'] else [])
    (by split <;> simp) value.natAbs
  have parts := regular.split
  simp only [Numeral.text, List.append_nil] at parts
  have size : (if value < 0 then -(value.natAbs : Int) else value.natAbs) =
      value := by
    split <;> omega
  have unsigned : (if value < 0 then ['-'] else []) = [] ↔ ¬ value < 0 := by
    split <;> simp_all
  rw [toList_toString_int]
  simp only [number?, parts, Numeral.token?, regular.isWellFormed,
    Nat.ofDigitChars_ten_toDigits, List.head?_nil, Option.any_none,
    Bool.false_eq_true, if_false, Bool.not_true, and_self, if_true,
    Option.map_some, unsigned, ite_not, size]

theorem token?_int (value : Int) {rest : List Char} (boundary : Boundary rest) :
    token? ((toString value).toList ++ rest) = some (.int value, rest) :=
  token?_number (number?_int value) boundary

theorem stringBody?_end (rest : List Char) :
    stringBody? ('"' :: rest) = some ([], rest) := by
  unfold stringBody?
  rfl

theorem stringBody?_code (first second third fourth : Char)
    (rest : List Char) :
    stringBody? ('\\' :: 'u' :: first :: second :: third :: fourth :: rest) =
      prepend? (codeChar? [first, second, third, fourth])
        (stringBody? rest) := by
  rw [stringBody?.eq_def]
  rfl

theorem stringBody?_escape {letter c : Char} (escaped : escape? letter = some c)
    (notCode : letter ≠ 'u') (rest : List Char) :
    stringBody? ('\\' :: letter :: rest) =
      prepend? (some c) (stringBody? rest) := by
  rw [stringBody?.eq_def]
  simp [escaped, notCode]

theorem stringBody?_plain {c : Char} {rest : List Char} (notQuote : c ≠ '"')
    (notBackslash : c ≠ '\\') (printable : ¬ (c.toNat < 0x20 ∧ c ≠ '\t')) :
    stringBody? (c :: rest) = prepend? (some c) (stringBody? rest) := by
  rw [stringBody?.eq_def]
  simp only [if_neg notQuote, if_neg notBackslash, if_neg printable]

theorem codeChar?_control :
    ∀ c : Char, c.toNat < 0x20 →
      codeChar? (['0', '0'] ++ Text.hexPair c.toNat) = some c :=
  forall_toNat_lt (by decide)

theorem stringBody?_escapedChar (c : Char) (rest : List Char) :
    stringBody? (Json.escapedChar c ++ rest) =
      prepend? (some c) (stringBody? rest) := by
  unfold Json.escapedChar
  iterate 7
    split
    · subst c
      exact stringBody?_escape rfl (by decide) rest
  split
  next control =>
    have decoded := codeChar?_control c control
    simp only [List.cons_append, List.nil_append, Text.hexPair] at decoded ⊢
    rw [stringBody?_code, decoded]
  next notQuote notBackslash _ _ _ _ notTab notControl =>
    rw [List.singleton_append,
      stringBody?_plain notQuote notBackslash (by simp [notControl])]

theorem stringBody?_flatMap (text rest : List Char) :
    stringBody? (text.flatMap Json.escapedChar ++ '"' :: rest) =
      some (text, rest) := by
  induction text with
  | nil => exact stringBody?_end rest
  | cons c text ih =>
      rw [List.flatMap_cons, List.append_assoc, stringBody?_escapedChar, ih]
      rfl

theorem escapedChar_eq_cons (c : Char) :
    ∃ first others, Json.escapedChar c = first :: others ∧ first ≠ '"' := by
  unfold Json.escapedChar
  split
  · exact ⟨'\\', ['"'], rfl, by decide⟩
  next notQuote =>
    repeat' split
    any_goals exact ⟨'\\', _, rfl, by decide⟩
    exact ⟨c, [], rfl, notQuote⟩

theorem token?_quote (text : String) {rest : List Char}
    (boundary : Boundary rest) :
    token? ((Json.quote text).toList ++ rest) = some (.string text, rest) := by
  have single : ['"', '"'].isPrefixOf
      (text.toList.flatMap Json.escapedChar ++ '"' :: rest) = false := by
    cases text.toList with
    | nil =>
        cases rest with
        | nil => rfl
        | cons c rest =>
            have notQuote : ('"' == c) = false :=
              @Boundary.head ('"' == ·) _ _ boundary rfl
            simp [List.isPrefixOf, notQuote]
    | cons c others =>
        obtain ⟨first, _, escaped, notQuote⟩ := escapedChar_eq_cons c
        rw [List.flatMap_cons, escaped]
        simp [List.isPrefixOf, Ne.symm notQuote]
  rw [Json.quote, String.toList_ofList]
  simp only [List.cons_append, List.append_assoc, List.nil_append]
  rw [token?, unignored_cons rfl (by decide)]
  simp only [string?, single, stringBody?_flatMap, Option.map_some,
    String.ofList_toList]
  rfl

end TypedGraphQL.Syntax
