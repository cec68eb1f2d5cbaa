import TypedGraphQL.Binding.Identifier
import TypedGraphQL.Proofs.Syntax.Token

namespace TypedGraphQL

open Syntax (isName isNameStart isNameContinue)

theorem isAlpha_iff_toNat {c : Char} :
    c.isAlpha = true ↔
      (65 ≤ c.toNat ∧ c.toNat ≤ 90) ∨ (97 ≤ c.toNat ∧ c.toNat ≤ 122) := by
  have alpha : c.isAlpha = (decide (c.val ≥ 'A'.val ∧ c.val ≤ 'Z'.val) ||
      (decide (c.val ≥ 'a'.val) && decide (c.val ≤ 'z'.val))) := rfl
  simp only [alpha, Bool.or_eq_true, Bool.and_eq_true, decide_eq_true_eq,
    ge_iff_le, UInt32.le_iff_toNat_le]
  rfl

theorem isNameStart_iff_toNat {c : Char} :
    isNameStart c = true ↔
      ((65 ≤ c.toNat ∧ c.toNat ≤ 90) ∨ (97 ≤ c.toNat ∧ c.toNat ≤ 122)) ∨
        c = '_' := by
  rw [isNameStart, Bool.or_eq_true, isAlpha_iff_toNat, beq_iff_eq]

/-- Made of letters, digits and underscores. -/
def Spelled (text : List Char) : Prop :=
  ∀ c ∈ text, isNameContinue c = true

instance (text : List Char) : Decidable (Spelled text) :=
  List.decidableBAll _ text

namespace Spelled

theorem nil : Spelled [] := by simp [Spelled]

theorem cons {c : Char} {text : List Char} (word : isNameContinue c = true)
    (spelled : Spelled text) : Spelled (c :: text) :=
  List.forall_mem_cons.mpr ⟨word, spelled⟩

theorem head {c : Char} {text : List Char} (spelled : Spelled (c :: text)) :
    isNameContinue c = true :=
  spelled c List.mem_cons_self

theorem tail {c : Char} {text : List Char} (spelled : Spelled (c :: text)) :
    Spelled text :=
  fun d member => spelled d (List.mem_cons_of_mem c member)

theorem append {first second : List Char} (firstSpelled : Spelled first)
    (secondSpelled : Spelled second) : Spelled (first ++ second) :=
  List.forall_mem_append.mpr ⟨firstSpelled, secondSpelled⟩

theorem not_mem {text : List Char} {c : Char} (spelled : Spelled text)
    (other : isNameContinue c = false) : c ∉ text := by
  intro member
  simp [spelled c member] at other

theorem unbroken {text : List Char} (spelled : Spelled text) : '\n' ∉ text :=
  spelled.not_mem (by decide)

theorem of_isName {name : String} (named : isName name = true) :
    Spelled name.toList := by
  rw [isName] at named
  split at named
  · contradiction
  next c rest found =>
    rw [Bool.and_eq_true] at named
    rw [found]
    exact .cons (by simp [isNameContinue, named.1])
      (List.all_eq_true.mp named.2)

end Spelled

/-! Changes of case -/

namespace Text

theorem toNat_lt_of_isNameContinue {c : Char} (word : isNameContinue c = true) :
    c.toNat < 0x80 := by
  rw [isNameContinue, Bool.or_eq_true, isNameStart_iff_toNat,
    Char.isDigit_iff_toNat] at word
  rcases word with ((⟨-, upper⟩ | ⟨-, lower⟩) | rfl) | ⟨-, digit⟩
  · omega
  · omega
  · decide
  · exact Nat.lt_of_le_of_lt digit (by decide)

theorem ne_feed_of_isNameContinue (c : Char) (word : isNameContinue c = true) :
    c ≠ '\n' := by
  rintro rfl
  exact absurd word (by decide)

theorem isNameContinue_changed {c : Char} (word : isNameContinue c = true) :
    isNameContinue c.toLower = true ∧ isNameContinue c.toUpper = true := by
  have changed : ∀ c : Char, c.toNat < 0x80 → isNameContinue c = true →
      isNameContinue c.toLower = true ∧ isNameContinue c.toUpper = true :=
    Syntax.forall_toNat_lt (by decide)
  exact changed c (toNat_lt_of_isNameContinue word) word

theorem ofNat_ne_feed {code : Nat} (later : 10 < code) : Char.ofNat code ≠ '\n' := by
  intro feed
  by_cases valid : code.isValidChar
  · rw [Char.ofNat, dif_pos valid] at feed
    have codeOfFeed : code = 10 := congrArg Char.toNat feed
    omega
  · rw [Char.ofNat, dif_neg valid] at feed
    exact absurd feed (by decide)

theorem shifted_ne_feed {shifts : List (Nat × Nat × Nat × Nat)} {c : Char}
    (images : ∀ shift ∈ shifts, 10 < shift.2.2.2) (other : c ≠ '\n') :
    shifted shifts c ≠ '\n' := by
  rw [shifted]
  split
  next first last step image found =>
    have later : 10 < image := images _ (List.mem_of_find?_eq_some found)
    exact ofNat_ne_feed (by omega)
  next => exact other

/-- What holds of a character holds of its other case as well. -/
structure CaseClosed (P : Char → Prop) : Prop where
  lower : ∀ c, P c → ∀ changed ∈ toLowercase c, P changed
  upper : ∀ c, P c → ∀ changed ∈ toUppercase c, P changed
  sigma : P 'Σ' → P 'ς'

theorem caseClosed_isNameContinue : CaseClosed (isNameContinue · = true) := by
  refine ⟨fun c word => ?_, fun c word => ?_, by decide⟩
  · rw [toLowercase, if_pos (toNat_lt_of_isNameContinue word)]
    simpa using (isNameContinue_changed word).1
  · rw [toUppercase, if_pos (toNat_lt_of_isNameContinue word)]
    simpa using (isNameContinue_changed word).2

theorem caseClosed_ne_feed : CaseClosed (· ≠ '\n') := by
  have ascii : ∀ c : Char, c.toNat < 0x80 → c ≠ '\n' →
      c.toLower ≠ '\n' ∧ c.toUpper ≠ '\n' := Syntax.forall_toNat_lt (by decide)
  refine ⟨fun c other => ?_, fun c other => ?_, by decide⟩
  · fun_cases toLowercase c with
    | case1 small =>
        simpa using (ascii c small other).1
    | case2 => simp
    | case3 =>
        have images : ∀ shift ∈ lowercaseShifts, 10 < shift.2.2.2 := by
          decide +kernel
        simpa using shifted_ne_feed images other
  · fun_cases toUppercase c with
    | case1 small =>
        simpa using (ascii c small other).2
    | case2 _ expansion found =>
        have codes : ∀ entry ∈ uppercaseExpansions, ∀ code ∈ entry.2, 10 < code := by
          decide +kernel
        obtain ⟨before, after, equal, -⟩ := List.lookup_eq_some_iff.mp found
        refine List.forall_mem_map.mpr fun code member => ?_
        exact ofNat_ne_feed (codes (c.toNat, expansion) (by simp [equal]) code member)
    | case3 =>
        have images : ∀ shift ∈ uppercaseShifts, 10 < shift.2.2.2 := by
          decide +kernel
        simpa using shifted_ne_feed images other

section Cased

variable {P : Char → Prop}

theorem CaseClosed.lowerWord (closed : CaseClosed P) {word : List Char}
    (each : ∀ c ∈ word, P c) : ∀ c ∈ lowerWord word, P c := by
  fun_induction Text.lowerWord word with
  | case1 => exact each
  | case2 => simpa using closed.sigma (by simpa using each)
  | case3 c plain => exact closed.lower c (each c List.mem_cons_self)
  | case4 c rest more ih =>
      rw [List.forall_mem_cons] at each
      exact List.forall_mem_append.mpr ⟨closed.lower c each.1, ih each.2⟩

theorem CaseClosed.capitalWord (closed : CaseClosed P) {word : List Char}
    (each : ∀ c ∈ word, P c) : ∀ c ∈ capitalWord word, P c := by
  cases word with
  | nil => exact each
  | cons c rest =>
      rw [List.forall_mem_cons] at each
      exact List.forall_mem_append.mpr
        ⟨closed.upper c each.1, closed.lowerWord each.2⟩

theorem forall_mem_of_mem_piecesAfter {current name piece : List Char}
    (currentEach : ∀ c ∈ current, P c)
    (each : ∀ c ∈ name, isAlphanumeric c = true → P c)
    (member : piece ∈ piecesAfter current name) : ∀ c ∈ piece, P c := by
  fun_induction piecesAfter current name with
  | case1 => simp at member
  | case2 current begun =>
      obtain rfl := List.mem_singleton.mp member
      simpa using currentEach
  | case3 current c rest alphanumeric ih =>
      rw [List.forall_mem_cons] at each
      exact ih (List.forall_mem_cons.mpr ⟨each.1 alphanumeric, currentEach⟩)
        each.2 member
  | case4 current c rest other empty ih =>
      rw [List.forall_mem_cons] at each
      exact ih (by simp) each.2 member
  | case5 current c rest other begun ih =>
      rw [List.forall_mem_cons] at each
      rcases List.mem_cons.mp member with rfl | later
      · simpa using currentEach
      · exact ih (by simp) each.2 later

theorem forall_mem_of_mem_wordsOfPiece {mode : LetterMode}
    {current piece word : List Char} (currentEach : ∀ c ∈ current, P c)
    (each : ∀ c ∈ piece, P c) (member : word ∈ wordsOfPiece mode current piece) :
    ∀ c ∈ word, P c := by
  fun_induction wordsOfPiece mode current piece with
  | case1 => simp at member
  | case2 mode current c =>
      obtain rfl := List.mem_singleton.mp member
      rw [List.forall_mem_singleton] at each
      simpa [or_imp, forall_and] using And.intro currentEach each
  | case3 mode current c next rest ends ih =>
      rw [List.forall_mem_cons] at each
      rcases List.mem_cons.mp member with rfl | later
      · simpa [or_imp, forall_and] using And.intro currentEach each.1
      · exact ih (by simp) each.2 later
  | case4 mode current c next rest stays ends ih =>
      rw [List.forall_mem_cons] at each
      rcases List.mem_cons.mp member with rfl | later
      · simpa using currentEach
      · exact ih (by simpa using each.1) each.2 later
  | case5 mode current c next rest stays goesOn ih =>
      rw [List.forall_mem_cons] at each
      exact ih (List.forall_mem_cons.mpr ⟨each.1, currentEach⟩) each.2 member

variable {name : List Char} (each : ∀ c ∈ name, isAlphanumeric c = true → P c)

include each

theorem forall_mem_of_mem_words {word : List Char} (member : word ∈ words name) :
    ∀ c ∈ word, P c := by
  obtain ⟨piece, inName, inPiece⟩ := List.mem_flatMap.mp member
  exact forall_mem_of_mem_wordsOfPiece (by simp)
    (forall_mem_of_mem_piecesAfter (by simp) each inName) inPiece

theorem CaseClosed.camelCase (closed : CaseClosed P) : ∀ c ∈ camelCase name, P c := by
  intro c member
  obtain ⟨word, inName, inWord⟩ := List.mem_flatMap.mp member
  exact closed.capitalWord (forall_mem_of_mem_words each inName) c inWord

end Cased

theorem spelled_intercalate {separator : List Char} {parts : List (List Char)}
    (separatorSpelled : Spelled separator) (each : ∀ part ∈ parts, Spelled part) :
    Spelled (separator.intercalate parts) := by
  induction parts with
  | nil => exact .nil
  | cons part parts ih =>
      rw [List.forall_mem_cons] at each
      cases parts with
      | nil => simpa using each.1
      | cons next parts =>
          rw [List.intercalate_cons_cons]
          exact (each.1.append separatorSpelled).append (ih each.2)

theorem spelled_snakeCase {name : List Char} (spelled : Spelled name) :
    Spelled (snakeCase name) := by
  refine spelled_intercalate (by decide) (List.forall_mem_map.mpr ?_)
  intro word member
  exact caseClosed_isNameContinue.lowerWord
    (forall_mem_of_mem_words (fun c inName _ => spelled c inName) member)

theorem spelled_camelCase {name : List Char} (spelled : Spelled name) :
    Spelled (camelCase name) :=
  caseClosed_isNameContinue.camelCase fun c member _ => spelled c member

theorem unbroken_camelCase (name : List Char) : '\n' ∉ camelCase name := by
  refine List.forall_mem_ne'.mp (caseClosed_ne_feed.camelCase ?_)
  rintro c - alphanumeric rfl
  exact absurd alphanumeric (by decide)

end Text

namespace IdentifierPolicy

variable {policy : IdentifierPolicy}

/-! Identifiers -/

/-- An identifier that is taken is told apart by an ordinal. -/
theorem distinct_cases (taken : List String) (identifier : String) :
    distinct taken identifier = identifier ∨
      ∃ ordinal, distinct taken identifier = numbered identifier ordinal := by
  rw [distinct]
  split
  · cases found : ((List.range' 2 (taken.length + 1)).map
        (numbered identifier)).find? fun candidate => !taken.contains candidate with
    | none => exact .inl rfl
    | some candidate =>
        obtain ⟨ordinal, -, rfl⟩ :=
          List.mem_map.mp (List.mem_of_find?_eq_some found)
        exact .inr ⟨ordinal, rfl⟩
  · exact .inl rfl

theorem mem_uniqueAfter_cases {taken identifiers : List String}
    {identifier : String} (member : identifier ∈ uniqueAfter taken identifiers) :
    ∃ given ∈ identifiers,
      identifier = given ∨ ∃ ordinal, identifier = numbered given ordinal := by
  induction identifiers generalizing taken with
  | nil => simp [uniqueAfter] at member
  | cons given rest ih =>
      rcases List.mem_cons.mp member with chosen | later
      · refine ⟨given, List.mem_cons_self, ?_⟩
        rw [chosen]
        exact distinct_cases taken given
      · obtain ⟨other, inRest, cases⟩ := ih later
        exact ⟨other, List.mem_cons_of_mem given inRest, cases⟩

theorem spelled_toString (ordinal : Nat) : Spelled (toString ordinal).toList := by
  intro c member
  rw [Nat.toString_eq_repr, Nat.repr, String.toList_ofList] at member
  simp [isNameContinue,
    Nat.isDigit_of_mem_toDigits (by decide) (by decide) member]

section Characters

variable {P : Char → Prop} (word : ∀ c, isNameContinue c = true → P c)

include word

/-- An identifier has the characters of its name and of identifiers, no others. -/
theorem forall_mem_finish {fallback : String} {name : List Char}
    (fallbackEach : ∀ c ∈ fallback.toList, P c) (each : ∀ c ∈ name, P c) :
    ∀ c ∈ (policy.finish fallback name).toList, P c := by
  have digitEach : ∀ c ∈ withoutLeadingDigit name, P c := by
    cases name with
    | nil => exact each
    | cons c rest =>
        rw [withoutLeadingDigit]
        split
        · exact List.forall_mem_cons.mpr ⟨word '_' (by decide), each⟩
        · exact each
  rw [finish]
  split
  · exact fallbackEach
  · dsimp only
    split
    · rw [String.toList_append, String.toList_ofList]
      refine List.forall_mem_append.mpr ⟨digitEach, fun c member => word c ?_⟩
      exact (by decide : Spelled suffix.toList) c member
    · rwa [String.toList_ofList]

theorem forall_mem_numbered {identifier : String} (ordinal : Nat)
    (each : ∀ c ∈ identifier.toList, P c) :
    ∀ c ∈ (numbered identifier ordinal).toList, P c := by
  have ended : Spelled (suffix.toList ++ (toString ordinal).toList) :=
    .append (by decide) (spelled_toString ordinal)
  rw [numbered, String.toList_append, String.toList_append, List.append_assoc]
  exact List.forall_mem_append.mpr
    ⟨each, fun c member => word c (ended c member)⟩

theorem forall_mem_of_mem_unique {identifiers : List String} {identifier : String}
    (each : ∀ given ∈ identifiers, ∀ c ∈ given.toList, P c)
    (member : identifier ∈ unique identifiers) : ∀ c ∈ identifier.toList, P c := by
  obtain ⟨given, inGiven, rfl | ⟨ordinal, rfl⟩⟩ := mem_uniqueAfter_cases member
  · exact each identifier inGiven
  · exact forall_mem_numbered word ordinal (each given inGiven)

end Characters

theorem spelled_finish {fallback : String} {name : List Char}
    (fallbackSpelled : Spelled fallback.toList) (spelled : Spelled name) :
    Spelled (policy.finish fallback name).toList :=
  forall_mem_finish (fun _ => id) fallbackSpelled spelled

theorem spelled_typeIdentifier {name : String} (named : isName name = true) :
    Spelled (policy.typeIdentifier name).toList :=
  spelled_finish (by decide) (.of_isName named)

theorem spelled_variantIdentifier {name : String} (named : isName name = true) :
    Spelled (policy.variantIdentifier name).toList :=
  spelled_finish (by decide) (Text.spelled_camelCase (.of_isName named))

theorem spelled_fieldIdentifier {name : String} (named : isName name = true) :
    Spelled (policy.fieldIdentifier name).toList :=
  spelled_finish (by decide) (Text.spelled_snakeCase (.of_isName named))

theorem spelled_of_mem_unique {identifiers : List String} {identifier : String}
    (each : ∀ given ∈ identifiers, Spelled given.toList)
    (member : identifier ∈ unique identifiers) : Spelled identifier.toList :=
  forall_mem_of_mem_unique (fun _ => id) each member

theorem unbroken_variantIdentifier (name : String) :
    '\n' ∉ (policy.variantIdentifier name).toList := by
  have fallback : '\n' ∉ "Unnamed".toList := by decide
  have cased := Text.unbroken_camelCase name.toList
  rw [← List.forall_mem_ne'] at fallback cased ⊢
  exact forall_mem_finish Text.ne_feed_of_isNameContinue fallback cased

theorem unbroken_of_mem_unique {identifiers : List String} {identifier : String}
    (each : ∀ given ∈ identifiers, '\n' ∉ given.toList)
    (member : identifier ∈ unique identifiers) : '\n' ∉ identifier.toList :=
  List.forall_mem_ne'.mp (forall_mem_of_mem_unique Text.ne_feed_of_isNameContinue
    (fun given inGiven => List.forall_mem_ne'.mpr (each given inGiven)) member)

/-! Two types with one identifier -/

theorem isDigit_of_isNameStart {c : Char} (start : isNameStart c = true) :
    c.isDigit = false := by
  rw [Bool.eq_false_iff, ne_eq, Char.isDigit_iff_toNat]
  rintro ⟨-, small⟩
  have nine : '9'.toNat = 57 := by decide
  rcases isNameStart_iff_toNat.mp start with (⟨upper, -⟩ | ⟨lower, -⟩) | rfl
  · omega
  · omega
  · exact absurd small (by decide)

theorem withoutLeadingDigit_of_isName {name : String}
    (named : isName name = true) :
    withoutLeadingDigit name.toList = name.toList := by
  rw [isName] at named
  cases found : name.toList with
  | nil => rfl
  | cons c rest =>
      rw [found, Bool.and_eq_true] at named
      simp [withoutLeadingDigit, isDigit_of_isNameStart named.1]

theorem typeIdentifier_of_isName {name : String} (named : isName name = true) :
    policy.typeIdentifier name =
      if policy.isReserved name then name ++ suffix else name := by
  have begun : name.toList.isEmpty = false := by
    rw [isName] at named
    split at named
    · contradiction
    next found => rw [found, List.isEmpty_cons]
  rw [typeIdentifier, finish, begun, withoutLeadingDigit_of_isName named,
    String.ofList_toList]
  rfl

/-- A reserved word, and the name that this word becomes when set apart. -/
def Clash (policy : IdentifierPolicy) (name other : String) : Prop :=
  (policy.isReserved name = true ∧ policy.isReserved other = false ∧
      other = name ++ suffix) ∨
    (policy.isReserved other = true ∧ policy.isReserved name = false ∧
      name = other ++ suffix)

instance (policy : IdentifierPolicy) (name other : String) :
    Decidable (policy.Clash name other) :=
  inferInstanceAs (Decidable (_ ∨ _))

theorem Clash.ne {name other : String} (clash : policy.Clash name other) :
    name ≠ other := by
  rintro rfl
  obtain ⟨reserved, free, -⟩ | ⟨reserved, free, -⟩ := clash <;>
    simp [reserved] at free

theorem typeIdentifier_eq_iff_clash {name other : String}
    (named : isName name = true) (otherNamed : isName other = true)
    (differ : name ≠ other) :
    policy.typeIdentifier name = policy.typeIdentifier other ↔
      policy.Clash name other := by
  rw [typeIdentifier_of_isName named, typeIdentifier_of_isName otherNamed]
  cases reserved : policy.isReserved name <;>
    cases otherReserved : policy.isReserved other
  · simp [Clash, reserved, otherReserved, differ]
  · simp [Clash, reserved, otherReserved]
  · simp [Clash, reserved, otherReserved, eq_comm]
  · have suffixed : name ++ suffix ≠ other ++ suffix := by
      simpa [String.append_left_inj] using differ
    simp [Clash, reserved, otherReserved, suffixed]

end IdentifierPolicy

end TypedGraphQL
