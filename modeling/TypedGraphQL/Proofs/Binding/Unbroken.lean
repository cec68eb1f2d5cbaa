import TypedGraphQL.Proofs.Binding.Declaration
import TypedGraphQL.Proofs.Schema.Reference

namespace TypedGraphQL

open Syntax (isName isNameContinue)

/-- What the configuration adds to generated code stays on its line. -/
structure Config.Unbroken (config : Config) : Prop where
  runtime : '\n' ∉ config.runtime.toList
  scalars : ∀ scalar ∈ config.scalars, '\n' ∉ scalar.2.toList

def Field.names (field : Field) : List String :=
  field.name :: field.arguments.map (·.name)

def TypeBody.names : TypeBody → List String
  | scalar | union _ => []
  | object fields _ | interface fields _ => fields.flatMap Field.names
  | enum values => values.map (·.name)
  | inputObject fields => fields.map (·.name)

/-- All types and members have names of the query language. -/
def Schema.Named (schema : Schema) : Prop :=
  ∀ type ∈ schema.types, isName type.name = true ∧
    ∀ name ∈ type.body.names, isName name = true

instance (schema : Schema) : Decidable schema.Named :=
  inferInstanceAs (Decidable (∀ _ ∈ _, _ ∧ _))

theorem Schema.Named.isName_of_resolves {schema : Schema} {name : String}
    (named : schema.Named) (resolves : schema.resolves name = true) :
    isName name = true := by
  obtain ⟨type, member, rfl⟩ | builtin := Schema.resolves_iff_knows.mp resolves
  · exact (named type member).1
  · exact (by decide : ∀ name ∈ builtinScalars, isName name = true) name builtin

theorem mem_zipWith {α β γ : Type} {combine : α → β → γ} {first : List α}
    {second : List β} {item : γ}
    (member : item ∈ List.zipWith combine first second) :
    ∃ a ∈ first, ∃ b ∈ second, item = combine a b := by
  rw [← List.map_uncurry_zip_eq_zipWith] at member
  obtain ⟨⟨a, b⟩, inZip, rfl⟩ := List.mem_map.mp member
  obtain ⟨inFirst, inSecond⟩ := List.of_mem_zip inZip
  exact ⟨a, inFirst, b, inSecond, rfl⟩

theorem unbroken_intercalate {separator : String} {texts : List String}
    (separatorUnbroken : '\n' ∉ separator.toList)
    (each : ∀ text ∈ texts, '\n' ∉ text.toList) :
    '\n' ∉ (separator.intercalate texts).toList := by
  induction texts with
  | nil => simp
  | cons text texts ih =>
      rw [List.forall_mem_cons] at each
      cases texts with
      | nil => simpa using each.1
      | cons next texts =>
          rw [String.intercalate_cons_cons, String.toList_append,
            String.toList_append, List.mem_append, List.mem_append, not_or, not_or]
          exact ⟨⟨each.1, separatorUnbroken⟩, ih each.2⟩

namespace Generator

variable {generator : Generator}

/-! Identifiers and type expressions -/

theorem unbroken_typeIdentifier {name : String} (named : isName name = true) :
    '\n' ∉ (generator.policy.typeIdentifier name).toList :=
  (IdentifierPolicy.spelled_typeIdentifier named).unbroken

theorem unbroken_fieldIdentifiers {names : List String} {identifier : String}
    (named : ∀ name ∈ names, isName name = true)
    (member : identifier ∈ generator.fieldIdentifiers names) :
    '\n' ∉ identifier.toList := by
  refine (IdentifierPolicy.spelled_of_mem_unique ?_ member).unbroken
  refine List.forall_mem_map.mpr fun name inNames => ?_
  exact IdentifierPolicy.spelled_fieldIdentifier (named name inNames)

theorem spelled_moduleName (place : Section) :
    Spelled place.moduleName.toList := by
  cases place <;> decide

theorem spelled_builtinType {name builtin : String}
    (found : builtinType? name = some builtin) : Spelled builtin.toList := by
  have builtins : builtin ∈ ["i32", "f64", "String", "bool"] := by
    grind [builtinType?]
  exact (by decide : ∀ text ∈ ["i32", "f64", "String", "bool"],
    Spelled text.toList) builtin builtins

theorem mem_namedPath {name : String} {c : Char} (named : isName name = true)
    (member : c ∈ (generator.namedPath name).toList) :
    isNameContinue c = true ∨ c = ':' := by
  have identifier :=
    @IdentifierPolicy.spelled_typeIdentifier generator.policy name named
  rw [namedPath] at member
  split at member
  next builtin found => exact .inl (spelled_builtinType found c member)
  next =>
    dsimp only at member
    split at member
    next place _ =>
      have steps : "super::".toList.all (fun c => isNameContinue c || c == ':') := by
        decide
      rw [List.all_eq_true] at steps
      simp only [itemPath, String.toList_append, List.mem_append] at member
      rcases member with ((start | inModule) | colons) | inIdentifier
      · simpa using steps c start
      · exact .inl (spelled_moduleName place c inModule)
      · exact .inr (by simpa using colons)
      · exact .inl (identifier c inIdentifier)
    next => exact .inl (identifier c member)

theorem unbroken_namedPath {name : String} (named : isName name = true) :
    '\n' ∉ (generator.namedPath name).toList := by
  intro feed
  exact absurd (mem_namedPath named feed) (by decide)

theorem unbroken_valueType (type : TypeRef) (named : isName type.baseName = true) :
    '\n' ∉ (generator.valueType type).text.toList ∧
      '\n' ∉ (generator.presentValueType type).text.toList := by
  induction type with
  | named name =>
      have path := @unbroken_namedPath generator name named
      simp [valueType, presentValueType, TypeExpr.text, path]
  | nonNull inner ih => exact ⟨(ih named).2, (ih named).2⟩
  | list element ih =>
      simp [valueType, presentValueType, TypeExpr.text, (ih named).1]

theorem unbroken_inputFieldType (type : TypeRef)
    (named : isName type.baseName = true) :
    '\n' ∉ (generator.inputFieldType type).text.toList := by
  cases type with
  | named name =>
      have path := @unbroken_namedPath generator name named
      rw [inputFieldType]
      split
      · simp [TypeExpr.text, path]
      · exact (unbroken_valueType (.named name) named).1
  | nonNull inner => exact (unbroken_valueType (.nonNull inner) named).1
  | list element => exact (unbroken_valueType (.list element) named).1

theorem spelled_enumVariant {values : List EnumValue} {case : EnumCase}
    (named : ∀ value ∈ values, isName value.name = true)
    (member : case ∈ generator.enumCases values) :
    Spelled case.variant.toList := by
  obtain ⟨value, -, variant, inVariants, rfl⟩ := mem_zipWith member
  refine IdentifierPolicy.spelled_of_mem_unique ?_ inVariants
  refine List.forall_mem_map.mpr fun value inValues => ?_
  exact IdentifierPolicy.spelled_variantIdentifier (named value inValues)

theorem spelled_unionVariant {possibleTypes : List String} {case : UnionCase}
    (named : ∀ possible ∈ possibleTypes, isName possible = true)
    (member : case ∈ generator.unionCases possibleTypes) :
    Spelled case.variant.toList := by
  obtain ⟨possible, -, variant, inVariants, rfl⟩ := mem_zipWith member
  refine IdentifierPolicy.spelled_of_mem_unique ?_ inVariants
  refine List.forall_mem_map.mpr fun possible inTypes => ?_
  exact IdentifierPolicy.spelled_typeIdentifier (named possible inTypes)

theorem unbroken_passedArgument {arguments : List InputValue}
    {argument : PassedArgument}
    (named : ∀ argument ∈ arguments, isName argument.name = true)
    (member : argument ∈ generator.passedArguments arguments) :
    '\n' ∉ argument.identifier.toList := by
  obtain ⟨given, -, identifier, inIdentifiers, rfl⟩ := mem_zipWith member
  exact unbroken_fieldIdentifiers (List.forall_mem_map.mpr named) inIdentifiers

theorem unbroken_call (argument : PassedArgument) :
    '\n' ∉ argument.call.toList := by
  rw [PassedArgument.call]
  split <;> simp [Text.unbroken_quoted]

theorem unbroken_argumentsText {runtime : String} {arguments : List PassedArgument}
    (runtimeUnbroken : '\n' ∉ runtime.toList)
    (each : ∀ argument ∈ arguments, '\n' ∉ argument.identifier.toList) :
    '\n' ∉ (argumentsText runtime arguments).toList := by
  have texts : '\n' ∉
      (String.join (arguments.map PassedArgument.text)).toList := by
    rw [String.toList_join, List.mem_flatMap]
    rintro ⟨text, member, feed⟩
    obtain ⟨argument, inArguments, rfl⟩ := List.mem_map.mp member
    unfold PassedArgument.text at feed
    simp [unbroken_call argument, each argument inArguments] at feed
  unfold argumentsText
  generalize String.join _ = joined at texts
  simp [runtimeUnbroken, texts]

theorem unbroken_argumentParameter {arguments : List InputValue}
    {parameter : Parameter}
    (named : ∀ argument ∈ arguments, isName argument.name = true)
    (typesNamed : ∀ argument ∈ arguments, isName argument.type.baseName = true)
    (member : parameter ∈ generator.argumentParameters arguments) :
    '\n' ∉ (parameter.text generator.runtime).toList := by
  obtain ⟨argument, inArguments, identifier, inIdentifiers, rfl⟩ :=
    mem_zipWith member
  have unbroken := unbroken_fieldIdentifiers (List.forall_mem_map.mpr named)
    inIdentifiers
  have type := @unbroken_valueType generator argument.type
    (typesNamed argument inArguments)
  simp [Parameter.text, unbroken, type.1]

section Configured

variable (config : generator.config.Unbroken)

include config

theorem unbroken_runtime : '\n' ∉ generator.runtime.toList :=
  config.runtime

theorem unbroken_scopeType (type : TypeRef) (named : isName type.baseName = true) :
    '\n' ∉ (generator.scopeType type).text.toList ∧
      '\n' ∉ (generator.presentScopeType type).text.toList := by
  have runtime := unbroken_runtime config
  induction type with
  | named name =>
      have path := @unbroken_namedPath generator name named
      simp [scopeType, presentScopeType, TypeExpr.text, path, runtime]
  | nonNull inner ih => exact ⟨(ih named).2, (ih named).2⟩
  | list element ih =>
      simp [scopeType, presentScopeType, TypeExpr.text, (ih named).1, runtime]

theorem unbroken_scalarType (name : String) :
    '\n' ∉ (generator.config.scalarType name).toList := by
  rw [Config.scalarType]
  cases found : generator.config.scalars.lookup name with
  | none => simp [config.runtime]
  | some type =>
      obtain ⟨before, after, equal, -⟩ := List.lookup_eq_some_iff.mp found
      exact config.scalars (name, type) (by simp [equal])

end Configured

end Generator

end TypedGraphQL
