import Mathlib.Order.Bounds.Basic
import Mathlib.Data.List.Nodup
import Mathlib.Data.List.Perm.Subperm
import TypedGraphQL.Proofs.Binding.Identifier

namespace TypedGraphQL.IdentifierPolicy

theorem numbered_injective (identifier : String) :
    Function.Injective (numbered identifier) := by
  intro first second same
  have texts : toString first = toString second := by
    simpa [numbered, String.append_right_inj] using same
  have digits : Nat.toDigits 10 first = Nat.toDigits 10 second := by
    have lists := congrArg String.toList texts
    simpa [Nat.toString_eq_repr, Nat.repr] using lists
  have values := congrArg (Nat.ofDigitChars 10 · 0) digits
  simpa using values

theorem numbered_ne (identifier : String) (ordinal : Nat) :
    numbered identifier ordinal ≠ identifier := by
  intro same
  have lengths := congrArg String.length same
  have ended : suffix.length = 1 := by decide
  simp only [numbered, String.length_append, ended] at lengths
  omega

def freeOrdinals (taken : List String) (identifier : String) : Set Nat :=
  { ordinal | 2 ≤ ordinal ∧ numbered identifier ordinal ∉ taken }

/--
An identifier that is not taken is chosen itself; one that is, with the least
ordinal from 2 on that is free, which the number of those taken bounds.
-/
inductive Chosen (taken : List String) (identifier : String) : String → Prop where
  | itself (free : identifier ∉ taken) : Chosen taken identifier identifier
  | numbered {ordinal : Nat} (held : identifier ∈ taken)
      (least : IsLeast (freeOrdinals taken identifier) ordinal)
      (bounded : ordinal ≤ taken.length + 1) :
      Chosen taken identifier (numbered identifier ordinal)

theorem exists_free {taken : List String} {identifier : String}
    (held : identifier ∈ taken) :
    ∃ ordinal ∈ List.range' 2 taken.length,
      numbered identifier ordinal ∉ taken := by
  by_contra none
  push Not at none
  let candidates := (List.range' 2 taken.length).map (numbered identifier)
  have distinct : (identifier :: candidates).Nodup := by
    refine List.nodup_cons.mpr ⟨?_, ?_⟩
    · rw [List.mem_map]
      rintro ⟨ordinal, -, same⟩
      exact numbered_ne identifier ordinal same
    · exact List.Nodup.map (numbered_injective identifier)
        List.nodup_range'
  have within : identifier :: candidates ⊆ taken := by
    refine List.cons_subset.mpr ⟨held, ?_⟩
    exact List.forall_mem_map.mpr none
  have bound := (distinct.subperm within).length_le
  simp only [List.length_cons, candidates, List.length_map,
    List.length_range'] at bound
  omega

theorem chosen_distinct (taken : List String) (identifier : String) :
    Chosen taken identifier (distinct taken identifier) := by
  rw [distinct]
  split
  next held =>
    rw [List.contains_iff_mem] at held
    obtain ⟨free, inRange, isFree⟩ := exists_free held
    rw [List.find?_map]
    cases found : (List.range' 2 (taken.length + 1)).find?
        ((fun candidate => !taken.contains candidate) ∘ numbered identifier) with
    | none =>
        have taking := List.find?_eq_none.mp found free (by
          rw [List.mem_range'_1] at inRange ⊢
          omega)
        simp [isFree] at taking
    | some ordinal =>
        obtain ⟨isFreeOrdinal, ordinalInRange, earlier⟩ :=
          List.find?_range'_eq_some.mp found
        have least : IsLeast (freeOrdinals taken identifier) ordinal := by
          refine ⟨⟨(List.mem_range'_1.mp ordinalInRange).1, by
            simpa using isFreeOrdinal⟩, ?_⟩
          rintro other ⟨atLeast, otherFree⟩
          by_contra smaller
          have held := earlier other atLeast (by omega)
          simp [otherFree] at held
        refine .numbered held least ?_
        have bound := least.2 ⟨(List.mem_range'_1.mp inRange).1, isFree⟩
        have := (List.mem_range'_1.mp inRange).2
        omega
  next free =>
    rw [List.contains_iff_mem] at free
    exact .itself free

theorem Chosen.not_mem {taken : List String} {identifier chosen : String}
    (isChosen : Chosen taken identifier chosen) : chosen ∉ taken := by
  cases isChosen with
  | itself free => exact free
  | numbered held least bounded => exact least.1.2

theorem Chosen.perm {taken other : List String} {identifier chosen : String}
    (isChosen : Chosen taken identifier chosen) (same : taken.Perm other) :
    Chosen other identifier chosen := by
  have ordinals : freeOrdinals taken identifier = freeOrdinals other identifier := by
    ext ordinal
    simp [freeOrdinals, same.mem_iff]
  cases isChosen with
  | itself free => exact .itself (same.mem_iff.not.mp free)
  | numbered held least bounded =>
      exact .numbered (same.mem_iff.mp held) (ordinals ▸ least)
        (same.length_eq ▸ bounded)

/-! A scope -/

theorem length_uniqueAfter (taken identifiers : List String) :
    (uniqueAfter taken identifiers).length = identifiers.length := by
  induction identifiers generalizing taken with
  | nil => rfl
  | cons identifier rest ih => rw [uniqueAfter, List.length_cons, ih, List.length_cons]

@[simp] theorem length_unique (identifiers : List String) :
    (unique identifiers).length = identifiers.length :=
  length_uniqueAfter [] identifiers

theorem uniqueAfter_append (taken first second : List String) :
    uniqueAfter taken (first ++ second) =
      uniqueAfter taken first ++
        uniqueAfter ((uniqueAfter taken first).reverse ++ taken) second := by
  induction first generalizing taken with
  | nil => rfl
  | cons identifier rest ih =>
      simp only [List.cons_append, uniqueAfter, ih, List.reverse_cons,
        List.append_assoc, List.nil_append]

theorem unique_append (first second : List String) :
    unique (first ++ second) =
      unique first ++ uniqueAfter (unique first).reverse second := by
  simpa [unique] using uniqueAfter_append [] first second

theorem getElem?_unique (before : List String) (identifier : String)
    (after : List String) :
    (unique (before ++ identifier :: after))[before.length]? =
      some (distinct (unique before).reverse identifier) := by
  have lengths := length_unique before
  rw [unique_append, uniqueAfter, List.getElem?_append_right lengths.le, lengths,
    Nat.sub_self, List.getElem?_cons_zero]

theorem nodup_uniqueAfter (taken identifiers : List String) :
    (uniqueAfter taken identifiers).Nodup ∧
      ∀ chosen ∈ uniqueAfter taken identifiers, chosen ∉ taken := by
  induction identifiers generalizing taken with
  | nil => simp [uniqueAfter]
  | cons identifier rest ih =>
      obtain ⟨distinctRest, apart⟩ := ih (distinct taken identifier :: taken)
      simp only [uniqueAfter, List.nodup_cons, List.forall_mem_cons]
      refine ⟨⟨fun again => ?_, distinctRest⟩,
        (chosen_distinct taken identifier).not_mem, fun chosen member => ?_⟩
      · exact apart _ again List.mem_cons_self
      · exact fun before => apart chosen member (List.mem_cons_of_mem _ before)

theorem nodup_unique (identifiers : List String) : (unique identifiers).Nodup :=
  (nodup_uniqueAfter [] identifiers).1

theorem unique_take (identifiers : List String) (count : Nat) :
    unique (identifiers.take count) = (unique identifiers).take count := by
  have whole := unique_append (identifiers.take count) (identifiers.drop count)
  rw [List.take_append_drop] at whole
  rcases Nat.le_total count identifiers.length with within | beyond
  · rw [whole, List.take_left']
    simp [within]
  · rw [List.take_of_length_le beyond, List.take_of_length_le (by simpa)]

theorem exists_chosen (identifiers : List String) (i : Fin identifiers.length) :
    ∃ chosen, (unique identifiers)[i.val]? = some chosen ∧
      Chosen ((unique identifiers).take i) identifiers[i] chosen := by
  have here := getElem?_unique (identifiers.take i) identifiers[i]
    (identifiers.drop (i + 1))
  rw [unique_take, List.length_take_of_le i.isLt.le] at here
  exact ⟨_, by simpa using here,
    (chosen_distinct _ _).perm (List.reverse_perm _)⟩

/--
The identifiers of a scope become as many distinct ones, each chosen by what has
been chosen before it; identifiers added at the end change none of them.
-/
theorem unique_tells_apart (identifiers : List String) :
    (unique identifiers).length = identifiers.length ∧
      (unique identifiers).Nodup ∧
      (∀ i : Fin identifiers.length, ∃ chosen,
        (unique identifiers)[i.val]? = some chosen ∧
          Chosen ((unique identifiers).take i) identifiers[i] chosen) ∧
      ∀ count, unique (identifiers.take count) = (unique identifiers).take count :=
  ⟨length_unique identifiers, nodup_unique identifiers, exists_chosen identifiers,
    unique_take identifiers⟩

example : unique ["NewHope", "NewHope_2", "NewHope", "NewHope"] =
    ["NewHope", "NewHope_2", "NewHope_3", "NewHope_4"] := by
  decide

/-! Standard words -/

theorem last_of_mem_standard :
    ∀ word ∈ standard.reserved,
      word = suffix ∨ word.toList.getLast?.any Char.isAlpha = true := by
  decide

theorem withoutLeadingDigit_ne_nil {name : List Char} (begun : name ≠ []) :
    withoutLeadingDigit name ≠ [] := by
  cases name with
  | nil => contradiction
  | cons c rest =>
      rw [withoutLeadingDigit]
      split <;> simp

theorem append_suffix_not_mem_standard {identifier : String}
    (begun : identifier ≠ "") : identifier ++ suffix ∉ standard.reserved := by
  intro member
  obtain bare | letter := last_of_mem_standard _ member
  · exact begun (by simpa using bare)
  · have last : (identifier ++ suffix).toList.getLast? = some '_' := by
      simp [suffix]
    rw [last] at letter
    exact absurd letter (by decide)

theorem last_numbered (identifier : String) (ordinal : Nat) :
    ∃ digit, (numbered identifier ordinal).toList.getLast? = some digit ∧
      digit.isDigit = true := by
  have digits : (toString ordinal).toList = Nat.toDigits 10 ordinal := by
    rw [Nat.toString_eq_repr, Nat.repr, String.toList_ofList]
  have last := List.getLast?_eq_some_getLast (@Nat.toDigits_ne_nil ordinal 10)
  refine ⟨_, ?_, Nat.isDigit_of_mem_toDigits (by decide) (by decide)
    (List.mem_of_getLast? last)⟩
  rw [numbered, String.toList_append, digits, List.getLast?_append, last,
    Option.some_or]

theorem numbered_not_mem_standard (identifier : String) (ordinal : Nat) :
    numbered identifier ordinal ∉ standard.reserved := by
  intro member
  obtain ⟨digit, last, isDigit⟩ := last_numbered identifier ordinal
  obtain bare | letter := last_of_mem_standard _ member
  · rw [bare] at last
    obtain rfl : '_' = digit := Option.some.inj last
    exact absurd isDigit (by decide)
  · rw [last, Option.any_some, isAlpha_iff_toNat] at letter
    have nine : digit.toNat ≤ 57 := (Char.isDigit_iff_toNat.mp isDigit).2
    omega

variable {words : List String}

theorem finish_not_mem_standard {fallback : String}
    (allowed : fallback ∉ standard.reserved) (name : List Char) :
    (standard.withReservedWords words).finish fallback name ∉
      standard.reserved := by
  rw [finish]
  split
  · exact allowed
  next begun =>
    dsimp only
    split
    next reserved =>
      refine append_suffix_not_mem_standard fun empty => ?_
      refine withoutLeadingDigit_ne_nil (by simpa using begun) ?_
      simpa using congrArg String.toList empty
    next unreserved =>
      intro member
      refine unreserved ?_
      simp [isReserved, withReservedWords, member]

theorem fieldIdentifier_not_mem_standard (name : String) :
    (standard.withReservedWords words).fieldIdentifier name ∉
      standard.reserved :=
  finish_not_mem_standard (by decide) _

theorem not_mem_standard_of_mem_unique {identifiers : List String}
    {identifier : String} (each : ∀ given ∈ identifiers, given ∉ standard.reserved)
    (member : identifier ∈ unique identifiers) :
    identifier ∉ standard.reserved := by
  obtain ⟨given, inGiven, rfl | ⟨ordinal, rfl⟩⟩ := mem_uniqueAfter_cases member
  · exact each identifier inGiven
  · exact numbered_not_mem_standard given ordinal

/-! Reserved words among identifiers -/

theorem isReserved_iff {word : String} :
    (standard.withReservedWords words).isReserved word = true ↔
      word ∈ standard.reserved ∨ word ∈ words := by
  simp [isReserved, withReservedWords]

/-- A configuration reserves what a name becomes that must not stay as it is. -/
def Recaptures (words : List String) (fallback : String) (name : List Char) :
    Prop :=
  if name = [] then fallback ∈ words
  else
    let identifier := String.ofList (withoutLeadingDigit name)
    (standard.withReservedWords words).isReserved identifier = true ∧
      identifier ++ suffix ∈ words

/-- The identifier at a position repeats an earlier one, and gets this ordinal. -/
def Renumbers (identifiers : List String) (i : Fin identifiers.length)
    (ordinal : Nat) : Prop :=
  identifiers[i] ∈ (unique identifiers).take i ∧
    IsLeast (freeOrdinals ((unique identifiers).take i) identifiers[i]) ordinal

theorem isReserved_finish_iff {fallback : String}
    (allowed : fallback ∉ standard.reserved) (name : List Char) :
    (standard.withReservedWords words).isReserved
        ((standard.withReservedWords words).finish fallback name) = true ↔
      Recaptures words fallback name := by
  rw [isReserved_iff, or_iff_right (finish_not_mem_standard allowed name), finish,
    Recaptures]
  by_cases empty : name = []
  · simp [empty]
  · rw [if_neg (by simpa using empty), if_neg empty]
    dsimp only
    split
    next reserved => simp [reserved]
    next unreserved =>
      have free : String.ofList (withoutLeadingDigit name) ∉ words := fun member =>
        unreserved (isReserved_iff.mpr (.inr member))
      simp [unreserved, free]

theorem mem_unique_iff {identifiers : List String} {chosen : String} :
    chosen ∈ unique identifiers ↔
      chosen ∈ identifiers ∨
        ∃ i ordinal, Renumbers identifiers i ordinal ∧
          chosen = numbered identifiers[i] ordinal := by
  constructor
  · intro member
    obtain ⟨i, found⟩ := List.mem_iff_getElem?.mp member
    have within : i < identifiers.length := by
      rw [← length_unique]
      exact (List.getElem?_eq_some_iff.mp found).1
    obtain ⟨_, here, isChosen⟩ := exists_chosen identifiers ⟨i, within⟩
    obtain rfl := Option.some.inj (found.symm.trans here)
    cases isChosen with
    | itself free => exact .inl (List.getElem_mem within)
    | numbered held least bounded => exact .inr ⟨⟨i, within⟩, _, ⟨held, least⟩, rfl⟩
  · rintro (given | ⟨i, ordinal, ⟨held, least⟩, rfl⟩)
    · obtain ⟨i, within, rfl⟩ := List.mem_iff_getElem.mp given
      obtain ⟨chosen, here, isChosen⟩ := exists_chosen identifiers ⟨i, within⟩
      cases isChosen with
      | itself free => exact List.mem_of_getElem? here
      | numbered held least bounded => exact List.mem_of_mem_take held
    · obtain ⟨chosen, here, isChosen⟩ := exists_chosen identifiers i
      cases isChosen with
      | itself free => exact absurd held free
      | numbered held other bounded =>
          rw [least.unique other]
          exact List.mem_of_getElem? here

/--
A reserved word is the identifier of a name exactly if the configuration reserves
the fallback or the word set apart that would stand for it; in a scope also if it
reserves an identifier with the ordinal that this is to get.
-/
theorem isReserved_iff_recaptures (words : List String) :
    (∀ name : String,
      ((standard.withReservedWords words).isReserved
          ((standard.withReservedWords words).typeIdentifier name) = true ↔
        Recaptures words "Unnamed" name.toList) ∧
      ((standard.withReservedWords words).isReserved
          ((standard.withReservedWords words).variantIdentifier name) = true ↔
        Recaptures words "Unnamed" (Text.camelCase name.toList)) ∧
      ((standard.withReservedWords words).isReserved
          ((standard.withReservedWords words).fieldIdentifier name) = true ↔
        Recaptures words "unnamed" (Text.snakeCase name.toList))) ∧
    ∀ identifiers : List String,
      (∃ chosen ∈ unique identifiers,
        (standard.withReservedWords words).isReserved chosen = true) ↔
      (∃ given ∈ identifiers,
        (standard.withReservedWords words).isReserved given = true) ∨
      ∃ i ordinal, Renumbers identifiers i ordinal ∧
        numbered identifiers[i] ordinal ∈ words := by
  refine ⟨fun name => ⟨?_, ?_, ?_⟩, fun identifiers => ?_⟩
  · exact isReserved_finish_iff (by decide) _
  · exact isReserved_finish_iff (by decide) _
  · exact isReserved_finish_iff (by decide) _
  · constructor
    · rintro ⟨chosen, member, reserved⟩
      rcases mem_unique_iff.mp member with given | ⟨i, ordinal, renumbers, rfl⟩
      · exact .inl ⟨chosen, given, reserved⟩
      · have configured := (isReserved_iff.mp reserved).resolve_left
          (numbered_not_mem_standard _ ordinal)
        exact .inr ⟨i, ordinal, renumbers, configured⟩
    · rintro (⟨given, member, reserved⟩ | ⟨i, ordinal, renumbers, configured⟩)
      · exact ⟨given, mem_unique_iff.mpr (.inl member), reserved⟩
      · exact ⟨_, mem_unique_iff.mpr (.inr ⟨i, ordinal, renumbers, rfl⟩),
          isReserved_iff.mpr (.inr configured)⟩

theorem reserved_words_recaptured :
    (standard.withReservedWords ["unnamed"]).isReserved
        ((standard.withReservedWords ["unnamed"]).fieldIdentifier "___") = true ∧
      (standard.withReservedWords ["model", "model_"]).isReserved
        ((standard.withReservedWords ["model", "model_"]).fieldIdentifier
          "model") = true ∧
      "Jedi_2" ∈ unique
        (["JEDI", "jedi"].map
          (standard.withReservedWords ["Jedi_2"]).variantIdentifier) ∧
      (standard.withReservedWords ["Jedi_2"]).isReserved "Jedi_2" = true := by
  decide +kernel

end TypedGraphQL.IdentifierPolicy
