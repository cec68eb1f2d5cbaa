import Mathlib.Data.List.Nodup
import TypedGraphQL.Proofs.Introspection.RoundTrip
import TypedGraphQL.Proofs.Schema.Reference

namespace TypedGraphQL

inductive IsFirst {α : Type} (property : α → Prop) : List α → α → Prop where
  | head {item : α} {rest : List α} (holds : property item) :
      IsFirst property (item :: rest) item
  | tail {other item : α} {rest : List α} (fails : ¬ property other)
      (first : IsFirst property rest item) :
      IsFirst property (other :: rest) item

section IsFirst

variable {α β : Type} {property : α → Prop} {item : α}

theorem isFirst_cons_iff {other : α} {rest : List α} :
    IsFirst property (other :: rest) item ↔
      property other ∧ other = item ∨
        ¬ property other ∧ IsFirst property rest item := by
  constructor
  · intro first
    cases first with
    | head holds => exact .inl ⟨holds, rfl⟩
    | tail fails first => exact .inr ⟨fails, first⟩
  · rintro (⟨holds, rfl⟩ | ⟨fails, first⟩)
    · exact .head holds
    · exact .tail fails first

theorem not_isFirst_nil : ¬ IsFirst property [] item := nofun

theorem IsFirst.mem {items : List α} (first : IsFirst property items item) :
    item ∈ items ∧ property item := by
  induction first with
  | head holds => exact ⟨List.mem_cons_self, holds⟩
  | tail fails first ih => exact ⟨List.mem_cons_of_mem _ ih.1, ih.2⟩

theorem isFirst_append_iff {items others : List α} :
    IsFirst property (items ++ others) item ↔
      IsFirst property items item ∨
        (∀ earlier ∈ items, ¬ property earlier) ∧
          IsFirst property others item := by
  induction items with
  | nil => simp [not_isFirst_nil]
  | cons other items ih =>
      rw [List.cons_append, isFirst_cons_iff, isFirst_cons_iff, ih,
        List.forall_mem_cons]
      by_cases holds : property other <;> simp [holds]

theorem isFirst_map_iff {write : β → α} {items : List β} :
    IsFirst property (items.map write) item ↔
      ∃ source, IsFirst (fun source => property (write source)) items source ∧
        write source = item := by
  induction items with
  | nil => simp [not_isFirst_nil]
  | cons source items ih =>
      simp only [List.map_cons, isFirst_cons_iff, ih]
      constructor
      · rintro (⟨holds, rfl⟩ | ⟨fails, later, first, rfl⟩)
        · exact ⟨source, .inl ⟨holds, rfl⟩, rfl⟩
        · exact ⟨later, .inr ⟨fails, first⟩, rfl⟩
      · rintro ⟨later, ⟨holds, rfl⟩ | ⟨fails, first⟩, rfl⟩
        · exact .inl ⟨holds, rfl⟩
        · exact .inr ⟨fails, later, first, rfl⟩

theorem isFirst_flatMap_iff {parts : β → List α} {sources : List β} :
    IsFirst property (sources.flatMap parts) item ↔
      ∃ source,
        IsFirst (fun source => ∃ part ∈ parts source, property part)
            sources source ∧
          IsFirst property (parts source) item := by
  induction sources with
  | nil => simp [not_isFirst_nil]
  | cons source sources ih =>
      rw [List.flatMap_cons, isFirst_append_iff, ih]
      constructor
      · rintro (first | ⟨fail, later, firstSource, first⟩)
        · exact ⟨source, .head ⟨item, first.mem⟩, first⟩
        · refine ⟨later, .tail ?_ firstSource, first⟩
          rintro ⟨part, member, holds⟩
          exact fail part member holds
      · rintro ⟨later, firstSource, first⟩
        cases firstSource with
        | head holds => exact .inl first
        | tail fails firstSource =>
            refine .inr ⟨fun part member holds => ?_, later, firstSource, first⟩
            exact fails ⟨part, member, holds⟩

theorem isFirst_iff_find? {property : α → Bool} {items : List α} :
    IsFirst (property · = true) items item ↔ items.find? property = some item := by
  induction items with
  | nil => simp [not_isFirst_nil]
  | cons other items ih =>
      rw [isFirst_cons_iff, ih, List.find?_cons]
      cases property other <;> simp

end IsFirst

/-! The first name that leads nowhere, in the order of declaration -/

section FirstUnknown

variable (known : String → Prop) (name : String)

inductive Field.FirstUnknown (field : Field) : Prop where
  | type (unknown : ¬ known field.type.baseName)
      (named : field.type.baseName = name)
  | argument {argument : InputValue} (typeKnown : known field.type.baseName)
      (first : IsFirst (¬ known ·.type.baseName) field.arguments argument)
      (named : argument.type.baseName = name)

/-- Fields stand before the interfaces or possible types. -/
inductive FirstUnknownOf (fields : List Field) (names : List String) : Prop where
  | field {field : Field}
      (first : IsFirst (fun field => ∃ other, field.RefersTo other ∧ ¬ known other)
        fields field)
      (unknown : field.FirstUnknown known name)
  | name
      (fieldsKnown : ∀ field ∈ fields, ∀ other, field.RefersTo other → known other)
      (first : IsFirst (¬ known ·) names name)

def TypeBody.FirstUnknown : TypeBody → Prop
  | scalar | enum _ => False
  | object fields interfaces => FirstUnknownOf known name fields interfaces
  | interface fields possibleTypes =>
    FirstUnknownOf known name fields possibleTypes
  | union possibleTypes => IsFirst (¬ known ·) possibleTypes name
  | inputObject fields =>
    ∃ field, IsFirst (¬ known ·.type.baseName) fields field ∧
      field.type.baseName = name

end FirstUnknown

namespace Schema

/-- Types stand before the roots: the query, then the mutation and the subscription. -/
inductive FirstUnresolved (schema : Schema) (name : String) : Prop where
  | type {type : NamedType}
      (first : IsFirst
        (fun type => ∃ other, type.body.RefersTo other ∧ ¬ schema.Knows other)
        schema.types type)
      (unknown : type.body.FirstUnknown schema.Knows name)
  | root
      (typesResolved : ∀ type ∈ schema.types, ∀ other,
        type.body.RefersTo other → schema.Knows other)
      (first : IsFirst (¬ schema.Knows ·)
        (schema.roots.query.toList ++ schema.roots.mutation.toList
          ++ schema.roots.subscription.toList)
        name)

end Schema

section References

variable {known : String → Prop} {name : String}

theorem Field.isFirst_references_iff {field : Field} :
    IsFirst (¬ known ·) field.references name ↔ field.FirstUnknown known name := by
  rw [references, isFirst_cons_iff, isFirst_map_iff, Classical.not_not]
  constructor
  · rintro (⟨unknown, named⟩ | ⟨typeKnown, argument, first, named⟩)
    · exact .type unknown named
    · exact .argument typeKnown first named
  · rintro (⟨unknown, named⟩ | ⟨typeKnown, first, named⟩)
    · exact .inl ⟨unknown, named⟩
    · exact .inr ⟨typeKnown, _, first, named⟩

theorem isFirst_fieldsAndNames_iff {fields : List Field} {names : List String} :
    IsFirst (¬ known ·) (fields.flatMap Field.references ++ names) name ↔
      FirstUnknownOf known name fields names := by
  simp only [isFirst_append_iff, isFirst_flatMap_iff,
    Field.isFirst_references_iff, Field.mem_references_iff,
    List.forall_mem_flatMap, Classical.not_not]
  constructor
  · rintro (⟨field, first, unknown⟩ | ⟨fieldsKnown, first⟩)
    · exact .field first unknown
    · exact .name fieldsKnown first
  · rintro (⟨first, unknown⟩ | ⟨fieldsKnown, first⟩)
    · exact .inl ⟨_, first, unknown⟩
    · exact .inr ⟨fieldsKnown, first⟩

theorem TypeBody.isFirst_references_iff {body : TypeBody} :
    IsFirst (¬ known ·) body.references name ↔ body.FirstUnknown known name := by
  cases body with
  | scalar => simp [references, FirstUnknown, not_isFirst_nil]
  | enum values => simp [references, FirstUnknown, not_isFirst_nil]
  | object fields interfaces => exact isFirst_fieldsAndNames_iff
  | interface fields possibleTypes => exact isFirst_fieldsAndNames_iff
  | union possibleTypes => rfl
  | inputObject fields => exact isFirst_map_iff

end References

namespace Schema

theorem isFirst_references_iff {schema : Schema} {name : String} :
    IsFirst (¬ schema.Knows ·) schema.references name ↔
      schema.FirstUnresolved name := by
  simp only [references, isFirst_append_iff, isFirst_flatMap_iff,
    TypeBody.isFirst_references_iff, TypeBody.mem_references_iff,
    List.forall_mem_flatMap, Classical.not_not]
  constructor
  · rintro (⟨type, first, unknown⟩ | ⟨typesResolved, first⟩)
    · exact .type first unknown
    · exact .root typesResolved first
  · rintro (⟨first, unknown⟩ | ⟨typesResolved, first⟩)
    · exact .inl ⟨_, first, unknown⟩
    · exact .inr ⟨typesResolved, first⟩

/-! The first repeated name -/

/-- A type with the name of one before it, while those before it differ. -/
def FirstRepeat (types : List NamedType) (type : NamedType) : Prop :=
  ∃ before after, types = before ++ type :: after ∧
    (before.map (·.name)).Nodup ∧ type.name ∈ before.map (·.name)

theorem firstRepeated?_eq_some_iff {names before : List String} {name : String} :
    firstRepeated? before names = some name ↔
      ∃ first rest, names = first ++ name :: rest ∧ first.Nodup ∧
        (∀ other ∈ first, other ∉ before) ∧ (name ∈ before ∨ name ∈ first) := by
  induction names generalizing before with
  | nil => simp [firstRepeated?]
  | cons other names ih =>
      rw [firstRepeated?]
      split
      next repeated =>
        rw [List.contains_iff_mem] at repeated
        rw [Option.some.injEq]
        constructor
        · rintro rfl
          exact ⟨[], names, by simp [repeated]⟩
        · rintro ⟨first, rest, same, -, fresh, -⟩
          cases first with
          | nil => exact (List.cons.inj same).1
          | cons _ first =>
              obtain ⟨rfl, -⟩ := List.cons.inj same
              exact absurd repeated (fresh _ List.mem_cons_self)
      next isNew =>
        rw [List.contains_iff_mem] at isNew
        rw [ih]
        constructor
        · rintro ⟨first, rest, rfl, distinct, fresh, known⟩
          refine ⟨other :: first, rest, rfl, ?_, ?_, ?_⟩
          · exact List.nodup_cons.mpr
              ⟨fun again => fresh _ again List.mem_cons_self, distinct⟩
          · exact List.forall_mem_cons.mpr ⟨isNew, fun earlier member held =>
              fresh earlier member (List.mem_cons_of_mem _ held)⟩
          · grind
        · rintro ⟨first, rest, same, distinct, fresh, known⟩
          cases first with
          | nil => grind
          | cons _ first =>
              obtain ⟨rfl, rfl⟩ := List.cons.inj same
              refine ⟨first, rest, rfl, ?_⟩
              grind

/-! The verdict -/

theorem resolve_eq_duplicateType_iff {types : List NamedType} {roots : RootTypes}
    {name : String} :
    resolve types roots = .error (.duplicateType name) ↔
      ∃ type, FirstRepeat types type ∧ type.name = name := by
  have found : resolve types roots = .error (.duplicateType name) ↔
      firstRepeated? [] (types.map (·.name)) = some name := by
    rw [resolve]
    split
    next repeated => simp [repeated]
    next distinct =>
      dsimp only
      split <;> simp [distinct]
  rw [found, firstRepeated?_eq_some_iff]
  constructor
  · rintro ⟨first, rest, names, distinct, -, known⟩
    obtain ⟨before, others, rfl, rfl, others'⟩ := List.map_eq_append_iff.mp names
    obtain ⟨type, after, rfl, rfl, -⟩ := List.map_eq_cons_iff.mp others'
    exact ⟨type, ⟨before, after, rfl, distinct, by simpa using known⟩, rfl⟩
  · rintro ⟨type, ⟨before, after, rfl, distinct, held⟩, rfl⟩
    exact ⟨before.map (·.name), after.map (·.name), by simp, distinct, by simp,
      .inr held⟩

theorem resolve_eq_unresolvedType_iff {types : List NamedType}
    {roots : RootTypes} {name : String} :
    resolve types roots = .error (.unresolvedType name) ↔
      (types.map (·.name)).Nodup ∧
        (Schema.mk types roots).FirstUnresolved name := by
  have missing {schema : Schema} :
      schema.references.find? (!schema.resolves ·) = some name ↔
        schema.FirstUnresolved name := by
    rw [← isFirst_iff_find?, ← isFirst_references_iff]
    simp [← resolves_iff_knows]
  have distinct_iff : firstRepeated? [] (types.map (·.name)) = none ↔
      (types.map (·.name)).Nodup := by
    simp [firstRepeated?_eq_none_iff]
  rw [← missing, ← distinct_iff, resolve]
  split
  next repeated => simp [repeated]
  next distinct =>
    dsimp only
    split
    next other found => simp [distinct, found]
    next found => simp [distinct, found]

theorem resolve_eq_error_iff {types : List NamedType} {roots : RootTypes}
    {error : SchemaError} :
    resolve types roots = .error error ↔
      (∃ type, FirstRepeat types type ∧ error = .duplicateType type.name) ∨
        ∃ name, (types.map (·.name)).Nodup ∧
          (Schema.mk types roots).FirstUnresolved name ∧
            error = .unresolvedType name := by
  constructor
  · intro refused
    cases error with
    | duplicateType name =>
        obtain ⟨type, first, rfl⟩ := resolve_eq_duplicateType_iff.mp refused
        exact .inl ⟨type, first, rfl⟩
    | unresolvedType name =>
        obtain ⟨distinct, first⟩ := resolve_eq_unresolvedType_iff.mp refused
        exact .inr ⟨name, distinct, first, rfl⟩
    | json reason => exact absurd refused (by rw [resolve]; grind)
    | invalidReference fault => exact absurd refused (by rw [resolve]; grind)
  · rintro (⟨type, first, rfl⟩ | ⟨name, distinct, first, rfl⟩)
    · exact resolve_eq_duplicateType_iff.mpr ⟨type, first, rfl⟩
    · exact resolve_eq_unresolvedType_iff.mpr ⟨distinct, first⟩

theorem get?_eq_some_iff {schema : Schema}
    (distinct : (schema.types.map (·.name)).Nodup) {name : String}
    {type : NamedType} :
    schema.get? name = some type ↔ type ∈ schema.types ∧ type.name = name := by
  constructor
  · intro found
    have named := List.find?_some found
    exact ⟨List.mem_of_find?_eq_some found, eq_of_beq named⟩
  · rintro ⟨member, rfl⟩
    obtain ⟨other, otherMember, same, found⟩ | ⟨undeclared, -⟩ :=
      schema.get?_cases type.name
    · rw [found, List.inj_on_of_nodup_map distinct otherMember member same]
    · exact absurd rfl (undeclared type member)

theorem kindOf?_eq_some_iff {schema : Schema}
    (distinct : (schema.types.map (·.name)).Nodup) {name : String}
    {kind : TypeKind} :
    schema.kindOf? name = some kind ↔
      (∃ type ∈ schema.types, type.name = name ∧ type.kind = kind) ∨
        (∀ type ∈ schema.types, type.name ≠ name) ∧
          name ∈ builtinScalars ∧ kind = .scalar := by
  rw [kindOf?]
  obtain ⟨type, member, rfl, found⟩ | ⟨undeclared, found⟩ := schema.get?_cases name
  · have only : ∀ other ∈ schema.types, other.name = type.name → other = type :=
      fun other otherMember same =>
        List.inj_on_of_nodup_map distinct otherMember member same
    rw [found]
    grind
  · rw [found]
    grind

/--
Distinct names and references that all lead somewhere are all it takes.
Otherwise the first repeated name is reported, or if there is none the first
reference that leads nowhere.  A schema keeps its types and roots, finds exactly
the type of a declared name, and knows the kind of exactly the names that are
declared or built in.
-/
theorem resolve_verdict (types : List NamedType) (roots : RootTypes) :
    ((∃ schema, resolve types roots = .ok schema) ↔
        (types.map (·.name)).Nodup ∧
          ∀ name, (Schema.mk types roots).RefersTo name →
            (Schema.mk types roots).Knows name) ∧
      (∀ error, resolve types roots = .error error ↔
        (∃ type, FirstRepeat types type ∧ error = .duplicateType type.name) ∨
          ∃ name, (types.map (·.name)).Nodup ∧
            (Schema.mk types roots).FirstUnresolved name ∧
              error = .unresolvedType name) ∧
      ∀ schema, resolve types roots = .ok schema →
        schema.types = types ∧ schema.roots = roots ∧
          (∀ name type, schema.get? name = some type ↔
            type ∈ types ∧ type.name = name) ∧
          (∀ name kind, schema.kindOf? name = some kind ↔
            (∃ type ∈ types, type.name = name ∧ type.kind = kind) ∨
              (∀ type ∈ types, type.name ≠ name) ∧
                name ∈ ["Int", "Float", "String", "Boolean", "ID"] ∧
                  kind = .scalar) := by
  refine ⟨?_, fun error => resolve_eq_error_iff, ?_⟩
  · simp [resolve_eq_ok_iff, mem_references_iff, resolves_iff_knows]
  · intro schema accepted
    obtain ⟨rfl, distinct, -⟩ := resolve_eq_ok_iff.mp accepted
    exact ⟨rfl, rfl, fun name type => get?_eq_some_iff distinct,
      fun name kind => kindOf?_eq_some_iff distinct⟩

theorem resolve_verdict_review :
    resolve reviewSchema.types reviewSchema.roots = .ok reviewSchema ∧
      reviewSchema.get? "Date" = some ⟨"Date", none, .scalar⟩ ∧
        reviewSchema.kindOf? "Boolean" = some .scalar := by
  have accepted :
      resolve reviewSchema.types reviewSchema.roots = .ok reviewSchema := by
    decide +kernel
  obtain ⟨-, -, found, kindFound⟩ := (resolve_verdict _ _).2.2 _ accepted
  exact ⟨accepted, (found _ _).mpr (by decide), (kindFound _ _).mpr (by decide)⟩

end Schema

end TypedGraphQL
