import TypedGraphQL.Schema.Resolved

namespace TypedGraphQL

/-- No non-null type is made non-null again. -/
def TypeRef.WellFormed : TypeRef → Prop
  | named _ => True
  | nonNull inner => inner.isNonNull = false ∧ inner.WellFormed
  | list element => element.WellFormed

def Member.WellFormed (member : Member) : Prop :=
  member.isDeprecated = false → member.deprecationReason = none

structure InputValue.WellFormed (value : InputValue) : Prop where
  member : value.toMember.WellFormed
  type : value.type.WellFormed

structure Field.WellFormed (field : Field) : Prop where
  member : field.toMember.WellFormed
  type : field.type.WellFormed
  arguments : ∀ argument ∈ field.arguments, argument.WellFormed

def TypeBody.WellFormed : TypeBody → Prop
  | scalar | union _ => True
  | object fields _ | interface fields _ => ∀ field ∈ fields, field.WellFormed
  | enum values => ∀ value ∈ values, value.WellFormed
  | inputObject fields => ∀ field ∈ fields, field.WellFormed

/-- Names that the introspection system keeps for itself. -/
def IsReserved (name : String) : Prop :=
  ['_', '_'] <+: name.toList

structure NamedType.WellFormed (type : NamedType) : Prop where
  unreserved : ¬ IsReserved type.name
  body : type.body.WellFormed

structure Schema.WellFormed (schema : Schema) : Prop where
  distinct : (schema.types.map (·.name)).Nodup
  types : ∀ type ∈ schema.types, type.WellFormed
  resolved : ∀ name ∈ schema.references, schema.resolves name = true

section Deciding

def TypeRef.decideWellFormed : (type : TypeRef) → Decidable type.WellFormed
  | named _ => .isTrue trivial
  | nonNull inner =>
    have := inner.decideWellFormed
    inferInstanceAs (Decidable (_ ∧ _))
  | list element => element.decideWellFormed

instance (type : TypeRef) : Decidable type.WellFormed :=
  type.decideWellFormed

instance (member : Member) : Decidable member.WellFormed :=
  inferInstanceAs (Decidable (_ → _))

instance (value : InputValue) : Decidable value.WellFormed :=
  decidable_of_iff (value.toMember.WellFormed ∧ value.type.WellFormed)
    ⟨fun ⟨member, type⟩ => ⟨member, type⟩, fun ⟨member, type⟩ => ⟨member, type⟩⟩

instance (field : Field) : Decidable field.WellFormed :=
  decidable_of_iff
    (field.toMember.WellFormed ∧ field.type.WellFormed ∧
      ∀ argument ∈ field.arguments, argument.WellFormed)
    ⟨fun ⟨member, type, arguments⟩ => ⟨member, type, arguments⟩,
      fun ⟨member, type, arguments⟩ => ⟨member, type, arguments⟩⟩

instance : (body : TypeBody) → Decidable body.WellFormed
  | .scalar | .union _ => .isTrue trivial
  | .object .. | .interface .. | .enum _ | .inputObject _ =>
    inferInstanceAs (Decidable (∀ _ ∈ _, _))

instance (name : String) : Decidable (IsReserved name) :=
  inferInstanceAs (Decidable (_ <+: _))

instance (type : NamedType) : Decidable type.WellFormed :=
  decidable_of_iff (¬ IsReserved type.name ∧ type.body.WellFormed)
    ⟨fun ⟨unreserved, body⟩ => ⟨unreserved, body⟩,
      fun ⟨unreserved, body⟩ => ⟨unreserved, body⟩⟩

instance (schema : Schema) : Decidable schema.WellFormed :=
  decidable_of_iff
    ((schema.types.map (·.name)).Nodup ∧
      (∀ type ∈ schema.types, type.WellFormed) ∧
      ∀ name ∈ schema.references, schema.resolves name = true)
    ⟨fun ⟨distinct, types, resolved⟩ => ⟨distinct, types, resolved⟩,
      fun ⟨distinct, types, resolved⟩ => ⟨distinct, types, resolved⟩⟩

end Deciding

namespace Schema

theorem firstRepeated?_eq_none_iff {names before : List String} :
    firstRepeated? before names = none ↔
      names.Nodup ∧ ∀ name ∈ names, name ∉ before := by
  induction names generalizing before with
  | nil => simp [firstRepeated?]
  | cons name names ih =>
      rw [firstRepeated?]
      split
      next repeated => simp_all
      next fresh =>
        rw [ih]
        simp only [List.contains_iff_mem] at fresh
        simp only [List.nodup_cons, List.mem_cons, not_or]
        grind

theorem resolve_eq_ok_iff {types : List NamedType} {roots : RootTypes}
    {schema : Schema} :
    resolve types roots = .ok schema ↔
      schema = ⟨types, roots⟩ ∧ (types.map (·.name)).Nodup ∧
        ∀ name ∈ schema.references, schema.resolves name = true := by
  rw [resolve]
  split
  next name repeated =>
    have : ¬ (types.map (·.name)).Nodup := by
      intro distinct
      have none := firstRepeated?_eq_none_iff.mpr
        ⟨distinct, fun _ _ => List.not_mem_nil⟩
      rw [none] at repeated
      contradiction
    simp [this]
  next distinct =>
    have nodup := (firstRepeated?_eq_none_iff.mp distinct).1
    dsimp only
    split
    next name missing =>
      have unresolved := List.find?_some missing
      have member := List.mem_of_find?_eq_some missing
      simp only [reduceCtorEq, false_iff]
      rintro ⟨rfl, -, resolved⟩
      simp [resolved name member] at unresolved
    next missing =>
      rw [List.find?_eq_none] at missing
      simp only [Except.ok.injEq, nodup, true_and]
      constructor
      · rintro rfl
        exact ⟨rfl, fun name member => by simpa using missing name member⟩
      · exact fun accepted => accepted.1.symm

end Schema

end TypedGraphQL
