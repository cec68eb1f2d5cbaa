import TypedGraphQL.Introspection.Schema
import TypedGraphQL.Proofs.Introspection.Writer
import TypedGraphQL.Proofs.Schema.WellFormed

namespace TypedGraphQL

open Introspection (Kind Reference FullType Document Envelope
  mapM_map_eq_pure)

def TypeKind.introspected : TypeKind → Kind
  | scalar => .scalar
  | object => .object
  | interface => .interface
  | union => .union
  | enum => .enum
  | inputObject => .inputObject

def TypeRef.introspected (kinds : String → TypeKind) : TypeRef → Reference
  | named name => .bare (kinds name).introspected (some name)
  | nonNull inner => .wrapping .nonNull none (inner.introspected kinds)
  | list element => .wrapping .list none (element.introspected kinds)

def InputValue.introspected (kinds : String → TypeKind) (value : InputValue) :
    Introspection.InputValue where
  toMember := value.toMember
  type := value.type.introspected kinds
  defaultValue := value.defaultValue

def Field.introspected (kinds : String → TypeKind) (field : Field) :
    Introspection.Field where
  toMember := field.toMember
  type := field.type.introspected kinds
  arguments := field.arguments.map (·.introspected kinds)

def referencesTo (kinds : String → TypeKind) (names : List String) :
    List Reference :=
  names.map fun name => (TypeRef.named name).introspected kinds

def NamedType.introspected (kinds : String → TypeKind) (type : NamedType) :
    FullType :=
  let bare : FullType :=
    ⟨type.kind.introspected, type.name, type.description, [], [], [], [], []⟩
  match type.body with
  | .scalar => bare
  | .object fields interfaces =>
    { bare with
      fields := fields.map (·.introspected kinds)
      interfaces := referencesTo kinds interfaces }
  | .interface fields possibleTypes =>
    { bare with
      fields := fields.map (·.introspected kinds)
      possibleTypes := referencesTo kinds possibleTypes }
  | .union possibleTypes =>
    { bare with possibleTypes := referencesTo kinds possibleTypes }
  | .enum values => { bare with enumValues := values }
  | .inputObject fields =>
    { bare with inputFields := fields.map (·.introspected kinds) }

def Schema.referenceKind (schema : Schema) (name : String) : TypeKind :=
  (schema.kindOf? name).getD .scalar

def Schema.introspected (schema : Schema) : Document :=
  ⟨schema.roots, schema.types.map (·.introspected schema.referenceKind)⟩

/-! What each part of it is converted to -/

section Conversion

variable (kinds : String → TypeKind)

theorem TypeRef.kind_introspected_eq_nonNull {type : TypeRef}
    (nullable : type.isNonNull = false) :
    (type.introspected kinds).kind ≠ .nonNull := by
  cases type with
  | named name =>
      rw [introspected, Reference.kind]
      cases kinds name <;> simp [TypeKind.introspected]
  | nonNull inner => contradiction
  | list element => simp [introspected, Reference.kind]

theorem TypeRef.typeRef_introspected {type : TypeRef}
    (wellFormed : type.WellFormed) :
    (type.introspected kinds).typeRef = .ok type := by
  induction type with
  | named name =>
      rw [introspected]
      cases kinds name <;> rfl
  | nonNull inner ih =>
      obtain ⟨nullable, innerWellFormed⟩ := wellFormed
      have notNested := kind_introspected_eq_nonNull kinds nullable
      rw [introspected, Reference.typeRef, if_neg notNested,
        ih innerWellFormed]
      rfl
  | list element ih =>
      rw [introspected, Reference.typeRef, ih wellFormed]
      rfl

theorem mapM_memberName_referencesTo (names : List String) :
    (referencesTo kinds names).mapM Reference.memberName = .ok names := by
  refine mapM_map_eq_pure fun name _ => ?_
  have named := @TypeRef.typeRef_introspected kinds (.named name) trivial
  rw [Reference.memberName, named]
  rfl

theorem withoutStrayReason_eq {member : Member}
    (wellFormed : member.WellFormed) :
    Introspection.withoutStrayReason member = member := by
  obtain ⟨name, description, isDeprecated, reason⟩ := member
  cases isDeprecated with
  | true => rfl
  | false =>
      obtain rfl : reason = none := wellFormed rfl
      rfl

theorem InputValue.convert_introspected {value : InputValue}
    (wellFormed : value.WellFormed) :
    (value.introspected kinds).convert = .ok value := by
  have member := withoutStrayReason_eq wellFormed.member
  have type := TypeRef.typeRef_introspected kinds wellFormed.type
  simp only [introspected, Introspection.InputValue.convert, type, member]
  rfl

theorem Field.convert_introspected {field : Field}
    (wellFormed : field.WellFormed) :
    (field.introspected kinds).convert = .ok field := by
  have member := withoutStrayReason_eq wellFormed.member
  have type := TypeRef.typeRef_introspected kinds wellFormed.type
  have arguments := mapM_map_eq_pure fun argument member =>
    InputValue.convert_introspected kinds (wellFormed.arguments argument member)
  simp only [introspected, Introspection.Field.convert, type, member, arguments]
  rfl

theorem NamedType.convert_introspected {type : NamedType}
    (wellFormed : type.body.WellFormed) :
    (type.introspected kinds).convert = .ok type := by
  obtain ⟨name, description, body⟩ := type
  have fieldsConverted {fields : List Field}
      (wellFormed : ∀ field ∈ fields, field.WellFormed) :
      (fields.map (Field.introspected kinds)).mapM Introspection.Field.convert =
        .ok fields :=
    mapM_map_eq_pure fun field member =>
      Field.convert_introspected kinds (wellFormed field member)
  have namesConverted := mapM_memberName_referencesTo kinds
  simp only [FullType.convert, FullType.body, introspected, NamedType.kind,
    TypeBody.kind]
  cases body with
  | scalar => rfl
  | object fields interfaces =>
      simp only [TypeKind.introspected, fieldsConverted wellFormed,
        namesConverted]
      rfl
  | interface fields possibleTypes =>
      simp only [TypeKind.introspected, fieldsConverted wellFormed,
        namesConverted]
      rfl
  | union possibleTypes =>
      simp only [TypeKind.introspected, namesConverted]
      rfl
  | enum values =>
      have converted : values.map Introspection.withoutStrayReason = values :=
        (List.map_congr_left fun value member =>
          withoutStrayReason_eq (wellFormed value member)).trans (List.map_id _)
      simp only [TypeKind.introspected, converted]
      rfl
  | inputObject fields =>
      have converted : (fields.map (InputValue.introspected kinds)).mapM
          Introspection.InputValue.convert = .ok fields :=
        mapM_map_eq_pure fun field member =>
          InputValue.convert_introspected kinds (wellFormed field member)
      simp only [TypeKind.introspected, converted]
      rfl

theorem NamedType.proper_introspected (type : NamedType) :
    (type.introspected kinds).Proper := by
  obtain ⟨name, description, body⟩ := type
  cases body <;> constructor <;>
    simp [introspected, NamedType.kind, TypeBody.kind, TypeKind.introspected]

theorem NamedType.isMeta_introspected {type : NamedType}
    (unreserved : ¬ IsReserved type.name) :
    (type.introspected kinds).isMeta = false := by
  have name : (type.introspected kinds).name = type.name := by
    rw [introspected]
    cases type.body <;> rfl
  rw [FullType.isMeta, name]
  exact Bool.eq_false_iff.mpr fun reserved =>
    unreserved (List.isPrefixOf_iff_prefix.mp reserved)

end Conversion

/-- The document that describes a well-formed schema is converted to it. -/
theorem Schema.schema_introspected {schema : Schema}
    (wellFormed : schema.WellFormed) :
    schema.introspected.schema = .ok schema := by
  have own : schema.introspected.types.filter (!·.isMeta) =
      schema.introspected.types := by
    rw [List.filter_eq_self]
    intro type member
    obtain ⟨declared, inSchema, rfl⟩ := List.mem_map.mp member
    rw [NamedType.isMeta_introspected _
      (wellFormed.types declared inSchema).unreserved]
    rfl
  have types := mapM_map_eq_pure fun type (member : type ∈ schema.types) =>
    NamedType.convert_introspected schema.referenceKind
      (wellFormed.types type member).body
  have resolved : Schema.resolve schema.types schema.roots = .ok schema :=
    resolve_eq_ok_iff.mpr ⟨rfl, wellFormed.distinct, wellFormed.resolved⟩
  rw [Document.schema, own, introspected, types]
  exact resolved

theorem Schema.proper_introspected (schema : Schema) :
    ∀ type ∈ schema.introspected.types, type.Proper := by
  intro type member
  obtain ⟨declared, -, rfl⟩ := List.mem_map.mp member
  exact declared.proper_introspected schema.referenceKind

/--
Any text of the document that describes a well-formed schema, nested no deeper
than the reader allows, is parsed as that schema; the printer writes such a text.
-/
theorem Schema.parse_introspected (schema : Schema) (envelope : Envelope)
    (wellFormed : schema.WellFormed)
    (shallow : (schema.introspected.toJson envelope).depth < Json.depthLimit) :
    (∀ text, Json.IsText (schema.introspected.toJson envelope) text →
        Schema.parse text = .ok schema) ∧
      Json.IsText (schema.introspected.toJson envelope)
        (schema.introspected.toJson envelope).text := by
  refine ⟨fun text isText => ?_,
    Json.isText_text (schema.introspected.numberFree_toJson envelope)⟩
  have read := Json.readPrefix_of_isText isText shallow
  have document := schema.introspected.ofJson?_toJson envelope
    schema.proper_introspected
  have parsed : Document.read text = .ok schema.introspected := by
    rw [Document.read, read]
    simp only [document]
  rw [Schema.parse, parsed]
  exact schema_introspected wellFormed

def reviewSchema : Schema :=
  let plain (name : String) : Member := ⟨name, none, false, none⟩
  let name : Field := ⟨plain "name", .nonNull (.named "String"), []⟩
  let friends : Field :=
    ⟨⟨"friends", some "Known heroes.", true, some "Ask for names."⟩,
      .list (.nonNull (.named "Character")),
      [⟨plain "first", .named "Int", some "10"⟩]⟩
  let search : Field :=
    ⟨plain "search", .nonNull (.list (.named "SearchResult")),
      [⟨plain "by", .nonNull (.named "Filter"), none⟩]⟩
  { types := [
      ⟨"Query", none, .object [search] []⟩,
      ⟨"Character", none, .interface [name, friends] ["Droid"]⟩,
      ⟨"Droid", some "A \"machine\".\n", .object [name, friends] ["Character"]⟩,
      ⟨"SearchResult", none, .union ["Droid"]⟩,
      ⟨"Episode", none, .enum [plain "JEDI", ⟨"CLONES", none, true, none⟩]⟩,
      ⟨"Filter", none, .inputObject
        [⟨plain "episode", .named "Episode", some "JEDI"⟩,
          ⟨plain "since", .named "Date", none⟩]⟩,
      ⟨"Date", none, .scalar⟩]
    roots := ⟨some "Query", none, none⟩ }

theorem Schema.parse_introspected_review :
    reviewSchema.WellFormed ∧
      (reviewSchema.introspected.toJson .response).depth < Json.depthLimit ∧
      Schema.parse (reviewSchema.introspected.toJson .response).text =
        .ok reviewSchema := by
  have wellFormed : reviewSchema.WellFormed := by decide
  have shallow :
      (reviewSchema.introspected.toJson .response).depth < Json.depthLimit := by
    decide
  obtain ⟨parsed, written⟩ :=
    reviewSchema.parse_introspected .response wellFormed shallow
  exact ⟨wellFormed, shallow, parsed _ written⟩

end TypedGraphQL
