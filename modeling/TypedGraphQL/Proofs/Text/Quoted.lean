import Mathlib.Data.List.Nodup
import TypedGraphQL.Text.Printable

namespace TypedGraphQL.Text

/-- What a literal goes on with: a character, or the rest of an escape. -/
inductive LiteralMode where
  | plain
  | escape
  | byte (high : Option Nat)
  | opening
  | code (digits value : Nat)
  | continuation
deriving DecidableEq, Repr

def letterEscapes : List (Char × Char) :=
  [('"', '"'), ('\'', '\''), ('\\', '\\'), ('n', '\n'), ('r', '\r'),
   ('t', '\t'), ('0', '\x00')]

namespace LiteralMode

def afterPlain? (c : Char) : Option (LiteralMode × List Char) :=
  if c = '\\' then some (escape, [])
  else if c = '\r' then none
  else some (plain, [c])

def afterEscape? (c : Char) : Option (LiteralMode × List Char) :=
  if c = 'x' then some (byte none, [])
  else if c = 'u' then some (opening, [])
  else if c = '\n' then some (continuation, [])
  else (letterEscapes.lookup c).map fun meant => (plain, [meant])

def afterByte? (high : Option Nat) (c : Char) : Option (LiteralMode × List Char) :=
  (hexValue? c).bind fun value =>
    match high with
    | none => if value < 8 then some (byte (some value), []) else none
    | some high => some (plain, [Char.ofNat (high * 16 + value)])

def afterCode? (digits value : Nat) (c : Char) :
    Option (LiteralMode × List Char) :=
  if c = '}' then
    if 0 < digits ∧ value.isValidChar then some (plain, [Char.ofNat value])
    else none
  else if c = '_' then if 0 < digits then some (code digits value, []) else none
  else if digits < 6 then
    (hexValue? c).map fun digit => (code (digits + 1) (value * 16 + digit), [])
  else none

def after? : LiteralMode → Char → Option (LiteralMode × List Char)
  | plain, c => afterPlain? c
  | escape, c => afterEscape? c
  | byte high, c => afterByte? high c
  | opening, c => if c = '{' then some (code 0 0, []) else none
  | code digits value, c => afterCode? digits value c
  | continuation, c =>
    if c = ' ' ∨ c = '\t' ∨ c = '\n' ∨ c = '\r' then some (continuation, [])
    else afterPlain? c

def ends (mode : LiteralMode) (c : Char) : Bool :=
  c == '"' && (mode == plain || mode == continuation)

def rest? (mode : LiteralMode) : List Char → Option (List Char × List Char)
  | [] => none
  | c :: text =>
    if mode.ends c then some ([], text)
    else
      (mode.after? c).bind fun (next, meant) =>
        (next.rest? text).map fun (content, text) => (meant ++ content, text)

end LiteralMode

/-- What a literal at the start of a text denotes, and the text after it. -/
def literal? : List Char → Option (String × List Char)
  | '"' :: text =>
    (LiteralMode.plain.rest? text).map fun (content, text) =>
      (String.ofList content, text)
  | _ => none

def literalBetween? (front back : String) (text : List Char) :
    Option (String × List Char) :=
  (front.toList.isPrefixOf? text).bind fun text =>
    (literal? text).bind fun (content, text) =>
      (back.toList.isPrefixOf? text).map fun text => (content, text)

/-! Reading what is written -/

namespace LiteralMode

theorem rest?_cons {mode next : LiteralMode} {c : Char} {meant : List Char}
    (inside : mode.ends c = false) (goesOn : mode.after? c = some (next, meant))
    (text : List Char) :
    mode.rest? (c :: text) =
      (next.rest? text).map fun (content, text) => (meant ++ content, text) := by
  rw [rest?, inside, if_neg Bool.false_ne_true, goesOn, Option.bind_some]

theorem rest?_cons_nil {mode next : LiteralMode} {c : Char}
    (inside : mode.ends c = false) (goesOn : mode.after? c = some (next, []))
    (text : List Char) : mode.rest? (c :: text) = next.rest? text := by
  rw [rest?_cons inside goesOn]
  simp

theorem hexValue?_digitChar :
    ∀ digit < 16, hexValue? (Nat.digitChar digit) = some digit := by decide

theorem digitChar_ne :
    ∀ digit < 16, Nat.digitChar digit ≠ '}' ∧ Nat.digitChar digit ≠ '_' ∧
      Nat.digitChar digit ≠ '"' := by decide

theorem rest?_hexDigits {n : Nat} (few : (hexDigits n).length ≤ 6)
    (text : List Char) :
    (code 0 0).rest? (hexDigits n ++ text) =
      (code (hexDigits n).length n).rest? text := by
  have step (digits value digit : Nat) (text : List Char) (less : digits < 6)
      (small : digit < 16) :
      (code digits value).rest? (Nat.digitChar digit :: text) =
        (code (digits + 1) (value * 16 + digit)).rest? text := by
    obtain ⟨notClosing, notUnderscore, notQuote⟩ := digitChar_ne digit small
    apply rest?_cons_nil
    · simp [ends, notQuote]
    · simp [after?, afterCode?, notClosing, notUnderscore, less,
        hexValue?_digitChar digit small]
  induction n using Nat.strongRecOn generalizing text with
  | ind n ih =>
      rw [hexDigits] at few ⊢
      by_cases small : n < 16
      · rw [Nat.toDigits_of_lt_base small]
        have read := step 0 0 n text (by decide) small
        rw [Nat.zero_mul, Nat.zero_add, Nat.zero_add] at read
        exact read
      · have split := @Nat.toDigits_of_base_le 16 n (by decide) (by omega)
        rw [split, List.length_append, List.length_singleton] at few ⊢
        have front := ih (n / 16) (by omega) (by rw [hexDigits]; omega)
          (Nat.digitChar (n % 16) :: text)
        rw [hexDigits] at front
        rw [List.append_assoc, List.singleton_append, front,
          step _ _ _ _ (by omega) (Nat.mod_lt n (by decide)), Nat.div_add_mod']

theorem length_hexDigits (c : Char) : (hexDigits c.toNat).length ≤ 6 := by
  have bound : c.toNat < 16 ^ 6 := by
    have valid := c.valid
    rcases valid with low | ⟨-, high⟩
    · have : c.toNat < 0xd800 := low
      omega
    · have : c.toNat < 0x110000 := high
      omega
  exact (Nat.length_toDigits_le_iff (by decide) (by decide)).mpr bound

theorem rest?_code (c : Char) (text : List Char) :
    plain.rest? (['\\', 'u', '{'] ++ hexDigits c.toNat ++ ['}'] ++ text) =
      (plain.rest? text).map fun (content, text) => (c :: content, text) := by
  have begun : 0 < (hexDigits c.toNat).length :=
    List.length_pos_iff.mpr Nat.toDigits_ne_nil
  have closed : (code (hexDigits c.toNat).length c.toNat).after? '}' =
      some (plain, [c]) := by
    have valid : c.toNat.isValidChar := c.valid
    simp [after?, afterCode?, begun, valid]
  simp only [List.append_assoc, List.cons_append, List.nil_append]
  rw [rest?_cons_nil rfl rfl, rest?_cons_nil rfl rfl, rest?_cons_nil rfl rfl,
    rest?_hexDigits (length_hexDigits c), rest?_cons (by rfl) closed]
  rfl

theorem rest?_quotedChar (c : Char) (text : List Char) :
    plain.rest? (quotedChar c ++ text) =
      (plain.rest? text).map fun (content, text) => (c :: content, text) := by
  have letter (letter meant : Char) (escapes : escape.after? letter =
      some (plain, [meant])) : plain.rest? (['\\', letter] ++ text) =
        (plain.rest? text).map fun (content, text) => (meant :: content, text) := by
    rw [List.cons_append, rest?_cons_nil rfl rfl, List.cons_append,
      rest?_cons (by simp [ends]) escapes]
    rfl
  fun_cases quotedChar c with
  | case7 notQuote notBackslash notFeed notReturn notTab notZero printable =>
      have itself : plain.after? c = some (plain, [c]) := by
        simp [after?, afterPlain?, notBackslash, notReturn]
      rw [List.singleton_append, rest?_cons (by simp [ends, notQuote]) itself]
      rfl
  | case8 => exact rest?_code c text
  | _ => subst_vars; exact letter _ _ rfl

end LiteralMode

theorem literal?_quoted (text : String) (rest : List Char) :
    literal? ((quoted text).toList ++ rest) = some (text, rest) := by
  have content (characters : List Char) :
      LiteralMode.plain.rest? (characters.flatMap quotedChar ++ '"' :: rest) =
        some (characters, rest) := by
    induction characters with
    | nil => rfl
    | cons c characters ih =>
        rw [List.flatMap_cons, List.append_assoc, LiteralMode.rest?_quotedChar, ih]
        rfl
  rw [quoted, String.toList_ofList, List.cons_append, List.cons_append,
    List.append_assoc, literal?, List.singleton_append, content]
  simp

@[simp] theorem isPrefixOf?_append {α : Type} [BEq α] [LawfulBEq α]
    (front rest : List α) : front.isPrefixOf? (front ++ rest) = some rest :=
  List.isPrefixOf?_eq_some_iff_append_eq.mpr rfl

theorem literalBetween?_quoted (front back content : String) (rest : List Char) :
    literalBetween? front back
        ((front ++ quoted content ++ back).toList ++ rest) =
      some (content, rest) := by
  simp only [String.toList_append, List.append_assoc]
  rw [literalBetween?, isPrefixOf?_append, Option.bind_some, literal?_quoted]
  simp

end TypedGraphQL.Text
