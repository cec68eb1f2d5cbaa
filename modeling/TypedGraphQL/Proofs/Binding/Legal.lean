import TypedGraphQL.Proofs.Binding.Scope

namespace TypedGraphQL.IdentifierPolicy

open Syntax (isName isNameStart isNameContinue)

/-- A word that generated code may declare. -/
structure Legal (identifier : String) : Prop where
  name : isName identifier = true
  notBare : identifier ≠ "_"
  notKeyword : identifier ∉
    ["as", "break", "const", "continue", "crate", "else", "enum", "extern",
     "false", "fn", "for", "if", "impl", "in", "let", "loop", "match", "mod",
     "move", "mut", "pub", "ref", "return", "self", "Self", "static", "struct",
     "super", "trait", "true", "type", "unsafe", "use", "where", "while",
     "async", "await", "dyn", "gen", "abstract", "become", "box", "do", "final",
     "macro", "override", "priv", "try", "typeof", "unsized", "virtual", "yield"]
  notOfHandle : identifier ∉
    ["is_recording", "leaf", "composite", "include", "typename", "fragments",
     "on", "selection"]
  notOfPrelude : identifier ∉
    ["Option", "Some", "None", "Result", "Ok", "Err", "Vec", "Box"]

theorem legal_iff {identifier : String} :
    Legal identifier ↔
      isName identifier = true ∧ identifier ∉ standard.reserved := by
  constructor
  · rintro ⟨named, notBare, notKeyword, notOfHandle, notOfPrelude⟩
    refine ⟨named, ?_⟩
    simp only [List.mem_cons, List.not_mem_nil, not_or] at *
    simp [standard, keywords, handleNames, preludeNames, *]
  · rintro ⟨named, free⟩
    have other : ∀ words : List String, (∀ word ∈ words, word ∈ standard.reserved) →
        identifier ∉ words := fun words reserved member =>
      free (reserved identifier member)
    refine ⟨named, fun bare => other ["_"] (by decide) (by simp [bare]), ?_, ?_, ?_⟩
    · exact other _ (by decide)
    · exact other _ (by decide)
    · exact other _ (by decide)

theorem isName_append {front back : String} (named : isName front = true)
    (spelled : Spelled back.toList) : isName (front ++ back) = true := by
  rw [isName] at named ⊢
  rw [String.toList_append]
  cases found : front.toList with
  | nil => simp [found] at named
  | cons c rest =>
      rw [found, Bool.and_eq_true] at named
      simp only [List.cons_append, Bool.and_eq_true, List.all_append]
      exact ⟨named.1, named.2, List.all_eq_true.mpr spelled⟩

theorem isName_ofList_cons (c : Char) (rest : List Char) :
    isName (String.ofList (c :: rest)) =
      (isNameStart c && rest.all isNameContinue) := by
  rw [isName, String.toList_ofList]

theorem isName_withoutLeadingDigit {name : List Char} (begun : name ≠ [])
    (spelled : Spelled name) :
    isName (String.ofList (withoutLeadingDigit name)) = true := by
  cases name with
  | nil => contradiction
  | cons c rest =>
      rw [withoutLeadingDigit]
      split
      · rw [isName_ofList_cons, Bool.and_eq_true]
        exact ⟨rfl, List.all_eq_true.mpr spelled⟩
      next other =>
        have start : isNameStart c = true := by
          have word := spelled.head
          rw [isNameContinue, Bool.or_eq_true] at word
          exact word.resolve_right other
        rw [isName_ofList_cons, Bool.and_eq_true]
        exact ⟨start, List.all_eq_true.mpr spelled.tail⟩

theorem isName_finish {policy : IdentifierPolicy} {fallback : String}
    {name : List Char} (named : isName fallback = true) (spelled : Spelled name) :
    isName (policy.finish fallback name) = true := by
  rw [finish]
  split
  · exact named
  next begun =>
    have identifier : isName (String.ofList (withoutLeadingDigit name)) = true :=
      isName_withoutLeadingDigit (by simpa using begun) spelled
    dsimp only
    split
    · exact isName_append identifier (by decide)
    · exact identifier

theorem isName_numbered {identifier : String} (named : isName identifier = true)
    (ordinal : Nat) : isName (numbered identifier ordinal) = true :=
  isName_append (isName_append named (by decide)) (spelled_toString ordinal)

section Configured

variable {words : List String}

theorem legal_finish {fallback : String} {name : List Char}
    (legal : Legal fallback) (spelled : Spelled name) :
    Legal ((standard.withReservedWords words).finish fallback name) := by
  obtain ⟨named, free⟩ := legal_iff.mp legal
  exact legal_iff.mpr
    ⟨isName_finish named spelled, finish_not_mem_standard free name⟩

theorem legal_of_mem_unique {identifiers : List String} {identifier : String}
    (each : ∀ given ∈ identifiers, Legal given)
    (member : identifier ∈ unique identifiers) : Legal identifier := by
  obtain ⟨given, inGiven, rfl | ⟨ordinal, rfl⟩⟩ := mem_uniqueAfter_cases member
  · exact each identifier inGiven
  · have named := (legal_iff.mp (each given inGiven)).1
    exact legal_iff.mpr
      ⟨isName_numbered named ordinal, numbered_not_mem_standard given ordinal⟩

theorem legal_fallback :
    ∀ fallback ∈ ["Unnamed", "unnamed"], Legal fallback := by
  have free : ∀ fallback ∈ ["Unnamed", "unnamed"],
      isName fallback = true ∧ fallback ∉ standard.reserved := by decide
  exact fun fallback member => legal_iff.mpr (free fallback member)

/-- A name of the query language becomes a legal word, in every scope. -/
theorem identifiers_legal (words : List String) {name : String}
    (named : isName name = true) :
    Legal ((standard.withReservedWords words).typeIdentifier name) ∧
      Legal ((standard.withReservedWords words).variantIdentifier name) ∧
      Legal ((standard.withReservedWords words).fieldIdentifier name) ∧
      ∀ identifiers : List String, (∀ given ∈ identifiers, Legal given) →
        ∀ identifier ∈ unique identifiers, Legal identifier := by
  have spelled := Spelled.of_isName named
  refine ⟨?_, ?_, ?_, fun identifiers each identifier => legal_of_mem_unique each⟩
  · exact legal_finish (legal_fallback _ (by simp)) spelled
  · exact legal_finish (legal_fallback _ (by simp)) (Text.spelled_camelCase spelled)
  · exact legal_finish (legal_fallback _ (by simp)) (Text.spelled_snakeCase spelled)

theorem identifiers_legal_underscores :
    isName "_1_" = true ∧ (∀ given ∈ ["_1", "_1"], Legal given) ∧
      Legal ((standard.withReservedWords ["_1"]).typeIdentifier "_1_") ∧
      Legal ((standard.withReservedWords ["_1"]).variantIdentifier "_1_") ∧
      Legal ((standard.withReservedWords ["_1"]).fieldIdentifier "_1_") ∧
      ∀ identifier ∈ unique ["_1", "_1"], Legal identifier := by
  have named : isName "_1_" = true := by decide
  have each : ∀ given ∈ ["_1", "_1"], Legal given := by
    have free : ∀ given ∈ ["_1", "_1"],
        isName given = true ∧ given ∉ standard.reserved := by decide
    exact fun given member => legal_iff.mpr (free given member)
  obtain ⟨ofType, ofVariant, ofField, inScope⟩ := identifiers_legal ["_1"] named
  exact ⟨named, each, ofType, ofVariant, ofField, inScope _ each⟩

end Configured

end TypedGraphQL.IdentifierPolicy
