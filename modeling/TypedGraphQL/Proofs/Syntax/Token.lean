import TypedGraphQL.Number.Decimal
import TypedGraphQL.Text.Digits

namespace TypedGraphQL.Syntax

inductive Bracket where
  | round
  | square
  | curly
deriving DecidableEq, Repr

inductive Token where
  | name (text : String)
  | int (value : Int)
  | float (value : Binary64)
  | string (text : String)
  | opening (bracket : Bracket)
  | closing (bracket : Bracket)
  | punctuator (c : Char)
  | spread
deriving DecidableEq, Repr

def isIgnored (c : Char) : Bool :=
  [' ', '\t', '\n', '\r', ',', '\uFEFF'].contains c

def unignored (inComment : Bool) : List Char → List Char
  | [] => []
  | c :: rest =>
    if inComment then unignored (c ≠ '\n' && c ≠ '\r') rest
    else if isIgnored c then unignored false rest
    else if c = '#' then unignored true rest
    else c :: rest

def isNameStart (c : Char) : Bool :=
  c.isAlpha || c == '_'

def isNameContinue (c : Char) : Bool :=
  isNameStart c || c.isDigit

def isName (text : String) : Bool :=
  match text.toList with
  | [] => false
  | c :: rest => isNameStart c && rest.all isNameContinue

theorem forall_toNat_lt {P : Char → Prop} {bound : Nat}
    (each : ∀ code < bound, P (Char.ofNat code)) :
    ∀ c : Char, c.toNat < bound → P c := by
  intro c below
  have here := each c.toNat below
  rwa [Char.ofNat_toNat] at here

/-! Numbers -/

/-- The parts of a number, each as it is written. -/
structure Numeral where
  sign : List Char
  whole : List Char
  fraction : List Char
  exponent : List Char
deriving DecidableEq, Repr

namespace Numeral

def splitSign (signs : List Char) : List Char → List Char × List Char
  | [] => ([], [])
  | c :: rest => if signs.contains c then ([c], rest) else ([], c :: rest)

def splitFraction : List Char → List Char × List Char
  | [] => ([], [])
  | c :: rest =>
    if c = '.' then
      (c :: rest.takeWhile Char.isDigit, rest.dropWhile Char.isDigit)
    else ([], c :: rest)

def splitExponent : List Char → List Char × List Char
  | [] => ([], [])
  | c :: rest =>
    if c = 'e' ∨ c = 'E' then
      let (sign, digits) := splitSign ['+', '-'] rest
      (c :: sign ++ digits.takeWhile Char.isDigit,
        digits.dropWhile Char.isDigit)
    else ([], c :: rest)

def split (text : List Char) : Numeral × List Char :=
  let (sign, unsigned) := splitSign ['-'] text
  let (fraction, afterFraction) :=
    splitFraction (unsigned.dropWhile Char.isDigit)
  let (exponent, rest) := splitExponent afterFraction
  (⟨sign, unsigned.takeWhile Char.isDigit, fraction, exponent⟩, rest)

def isWellFormed (numeral : Numeral) : Bool :=
  (numeral.whole == ['0'] ||
      (numeral.whole != [] && numeral.whole.head? != some '0')) &&
    numeral.fraction.length != 1 &&
    numeral.exponent.getLast?.all Char.isDigit

def token? (numeral : Numeral) : Option Token :=
  if !numeral.isWellFormed then none
  else if numeral.fraction = [] ∧ numeral.exponent = [] then
    let value := Nat.ofDigitChars 10 numeral.whole 0
    some (.int (if numeral.sign = [] then value else -value))
  else
    (Binary64.ofText? (String.ofList (numeral.sign ++ numeral.whole ++
      numeral.fraction ++ numeral.exponent))).map .float

end Numeral

def number? (text : List Char) : Option (Token × List Char) :=
  let (numeral, rest) := Numeral.split text
  if rest.head?.any fun c => isNameStart c || c == '.' then none
  else numeral.token?.map (·, rest)

/-! Strings -/

def escape? (c : Char) : Option Char :=
  [('"', '"'), ('\\', '\\'), ('/', '/'), ('b', '\x08'), ('f', '\x0c'),
    ('n', '\n'), ('r', '\r'), ('t', '\t')].lookup c

def codeChar? (digits : List Char) : Option Char := do
  let code ← Text.hexNumber? digits
  if code.isValidChar then some (Char.ofNat code) else none

def prepend? (decoded : Option Char)
    (content : Option (List Char × List Char)) :
    Option (List Char × List Char) := do
  let c ← decoded
  let (content, rest) ← content
  return (c :: content, rest)

def stringBody? : List Char → Option (List Char × List Char)
  | [] => none
  | c :: rest =>
    if c = '"' then some ([], rest)
    else if c = '\\' then
      match rest with
      | 'u' :: first :: second :: third :: fourth :: rest =>
        prepend? (codeChar? [first, second, third, fourth]) (stringBody? rest)
      | letter :: rest => prepend? (escape? letter) (stringBody? rest)
      | [] => none
    else if c.toNat < 0x20 ∧ c ≠ '\t' then none
    else prepend? (some c) (stringBody? rest)

def string? (text : List Char) : Option (Token × List Char) :=
  if ['"', '"'].isPrefixOf text then none
  else (stringBody? text).map fun (content, after) =>
    (.string (String.ofList content), after)

def punctuator? : Char → Option Token
  | '(' => some (.opening .round)
  | ')' => some (.closing .round)
  | '[' => some (.opening .square)
  | ']' => some (.closing .square)
  | '\x7b' => some (.opening .curly)
  | '\x7d' => some (.closing .curly)
  | c => if ['!', '$', '&', ':', '=', '@', '|'].contains c then
      some (.punctuator c) else none

/-- The next token and the text after it. -/
def token? (text : List Char) : Option (Token × List Char) :=
  match unignored false text with
  | [] => none
  | c :: rest =>
    if isNameStart c then
      some (.name (String.ofList (c :: rest.takeWhile isNameContinue)),
        rest.dropWhile isNameContinue)
    else if c.isDigit ∨ c = '-' then number? (c :: rest)
    else if c = '"' then string? rest
    else if c = '.' then
      match rest with
      | '.' :: '.' :: rest => some (.spread, rest)
      | _ => none
    else (punctuator? c).map (·, rest)

/-! A token takes at least one character. -/

theorem length_unignored_le (text : List Char) (inComment : Bool) :
    (unignored inComment text).length ≤ text.length := by
  induction text generalizing inComment with
  | nil => exact Nat.le_refl _
  | cons c rest ih =>
      rw [unignored, List.length_cons]
      split
      · exact Nat.le_succ_of_le (ih _)
      · split
        · exact Nat.le_succ_of_le (ih _)
        · split
          · exact Nat.le_succ_of_le (ih _)
          · exact Nat.le_refl _

theorem length_takeWhile_add_dropWhile (p : Char → Bool) (text : List Char) :
    (text.takeWhile p).length + (text.dropWhile p).length = text.length := by
  rw [← List.length_append, List.takeWhile_append_dropWhile]

namespace Numeral

theorem length_splitSign_le (signs text : List Char) :
    (splitSign signs text).2.length ≤ text.length := by
  cases text with
  | nil => exact Nat.le_refl _
  | cons c rest =>
      rw [splitSign]
      split
      · exact Nat.le_succ _
      · exact Nat.le_refl _

theorem length_splitFraction_le (text : List Char) :
    (splitFraction text).2.length ≤ text.length := by
  cases text with
  | nil => exact Nat.le_refl _
  | cons c rest =>
      rw [splitFraction]
      split
      · exact Nat.le_succ_of_le (List.dropWhile_suffix _).length_le
      · exact Nat.le_refl _

theorem length_splitExponent_le (text : List Char) :
    (splitExponent text).2.length ≤ text.length := by
  cases text with
  | nil => exact Nat.le_refl _
  | cons c rest =>
      rw [splitExponent]
      split
      · have signed := length_splitSign_le ['+', '-'] rest
        have digits := (@List.dropWhile_suffix _ (splitSign ['+', '-'] rest).2
          Char.isDigit).length_le
        exact Nat.le_succ_of_le (Nat.le_trans digits signed)
      · exact Nat.le_refl _

theorem length_split_le (text : List Char) :
    (split text).1.whole.length + (split text).2.length ≤ text.length := by
  have signed := length_splitSign_le ['-'] text
  have whole := length_takeWhile_add_dropWhile Char.isDigit
    (splitSign ['-'] text).2
  have fraction := length_splitFraction_le
    ((splitSign ['-'] text).2.dropWhile Char.isDigit)
  have exponent := length_splitExponent_le
    (splitFraction ((splitSign ['-'] text).2.dropWhile Char.isDigit)).2
  simp only [split]
  omega

theorem whole_ne_nil_of_token? {numeral : Numeral} {token : Token}
    (read : numeral.token? = some token) : numeral.whole ≠ [] := by
  intro empty
  simp [token?, isWellFormed, empty] at read

end Numeral

theorem length_number?_lt {text rest : List Char} {token : Token}
    (read : number? text = some (token, rest)) : rest.length < text.length := by
  simp only [number?] at read
  split at read
  · simp at read
  · obtain ⟨other, accepted, same⟩ := Option.map_eq_some_iff.mp read
    cases same
    have bound := Numeral.length_split_le text
    have digits := List.length_pos_iff.mpr
      (Numeral.whole_ne_nil_of_token? accepted)
    omega

theorem eq_some_of_prepend? {decoded : Option Char}
    {inner : Option (List Char × List Char)} {content rest : List Char}
    (read : prepend? decoded inner = some (content, rest)) :
    ∃ content, inner = some (content, rest) := by
  simp only [prepend?, Option.bind_eq_bind, Option.bind_eq_some_iff] at read
  obtain ⟨c, -, ⟨content, other⟩, found, same⟩ := read
  cases same
  exact ⟨content, found⟩

theorem length_stringBody?_lt :
    ∀ {text content rest : List Char}, stringBody? text = some (content, rest) →
      rest.length < text.length
  | [], _, _, read => by simp [stringBody?] at read
  | c :: others, content, rest, read => by
      have inside {text : List Char} {decoded : Option Char}
          (shorter : text.length ≤ others.length)
          (read : prepend? decoded (stringBody? text) = some (content, rest)) :
          rest.length < (c :: others).length := by
        obtain ⟨_, found⟩ := eq_some_of_prepend? read
        have := length_stringBody?_lt found
        rw [List.length_cons]
        omega
      unfold stringBody? at read
      split at read
      · cases read
        exact Nat.lt_succ_self _
      · split at read
        · split at read
          · exact inside (by simp only [List.length_cons]; omega) read
          · exact inside (by simp only [List.length_cons]; omega) read
          · simp at read
        · split at read
          · simp at read
          · exact inside (Nat.le_refl _) read
termination_by text => text.length
decreasing_by
  rw [List.length_cons]
  omega

theorem length_token?_lt {text rest : List Char} {token : Token}
    (read : token? text = some (token, rest)) : rest.length < text.length := by
  have shrinks := length_unignored_le text false
  rw [token?] at read
  split at read
  · simp at read
  next c others found =>
    rw [found, List.length_cons] at shrinks
    split at read
    · cases read
      have := (@List.dropWhile_suffix _ others isNameContinue).length_le
      omega
    · split at read
      · have := length_number?_lt read
        rw [List.length_cons] at this
        omega
      · split at read
        · rw [string?] at read
          split at read
          · simp at read
          · obtain ⟨body, bodyRead, same⟩ := Option.map_eq_some_iff.mp read
            cases same
            have := length_stringBody?_lt bodyRead
            omega
        · split at read
          · split at read
            · cases read
              simp only [List.length_cons] at shrinks
              omega
            · simp at read
          · obtain ⟨_, -, same⟩ := Option.map_eq_some_iff.mp read
            cases same
            omega

end TypedGraphQL.Syntax
