import TypedGraphQL.Proofs.Binding.Unbroken

namespace TypedGraphQL

open Code (Plain Laid Ended)
open Syntax (isName)

structure Accessor.Unbroken (runtime : String) (accessor : Accessor) : Prop where
  attributes : ∀ line ∈ accessor.attributes, Plain line
  name : '\n' ∉ accessor.name.toList
  parameters : ∀ parameter ∈ accessor.parameters,
    '\n' ∉ (parameter.text runtime).toList
  body : '\n' ∉ (accessor.body.text runtime).toList
  result : '\n' ∉ accessor.body.result.toList

namespace Accessor

variable {runtime : String} {accessor : Accessor}

theorem Unbroken.signature (unbroken : accessor.Unbroken runtime)
    (runtimeUnbroken : '\n' ∉ runtime.toList) :
    '\n' ∉ (accessor.signature runtime).toList := by
  have parameters : '\n' ∉ (", ".intercalate ("&mut self" ::
      accessor.parameters.map (Parameter.text runtime))).toList := by
    refine unbroken_intercalate (by simp) fun text member => ?_
    rcases List.mem_cons.mp member with rfl | later
    · simp
    · obtain ⟨parameter, inParameters, rfl⟩ := List.mem_map.mp later
      exact unbroken.parameters parameter inParameters
  have typeParameters : '\n' ∉ accessor.body.typeParameters.toList := by
    cases accessor.body <;> simp [AccessorBody.typeParameters]
  unfold Accessor.signature
  generalize ", ".intercalate _ = listed at parameters
  simp [unbroken.name, typeParameters, parameters, unbroken.result,
    runtimeUnbroken]

theorem Unbroken.laid_declaration (unbroken : accessor.Unbroken runtime)
    (runtimeUnbroken : '\n' ∉ runtime.toList) :
    Laid [] (accessor.declaration runtime) := by
  refine .plain (List.forall_mem_append.mpr ⟨unbroken.attributes, ?_⟩)
  simp [Plain, margin, unbroken.signature runtimeUnbroken, List.getLast?_cons]

theorem getLast?_bodyText (body : AccessorBody) :
    (body.text runtime).toList.getLast? = some ')' := by
  unfold AccessorBody.text
  cases body with
  | leaf field arguments result =>
      dsimp only
      simp [List.getLast?_cons]
  | composite field arguments =>
      dsimp only
      simp [List.getLast?_cons]
  | fragments cases =>
      dsimp only
      generalize ", ".intercalate _ = listed
      simp [List.getLast?_cons]

theorem Unbroken.laid_implementation (unbroken : accessor.Unbroken runtime)
    (runtimeUnbroken : '\n' ∉ runtime.toList) :
    Laid [] (accessor.implementation runtime) := by
  refine .plain ?_
  simp [Plain, margin, unbroken.signature runtimeUnbroken, unbroken.body,
    getLast?_bodyText, List.getLast?_cons]

end Accessor

namespace Generator

variable {generator : Generator} (config : generator.config.Unbroken)

include config

theorem unbroken_fieldAccessor {field : Field} {identifier : String}
    (identifierUnbroken : '\n' ∉ identifier.toList)
    (named : ∀ name ∈ field.names, isName name = true)
    (typesNamed : ∀ name ∈ field.references, isName name = true) :
    (generator.fieldAccessor field identifier).Unbroken generator.runtime := by
  have runtime := unbroken_runtime config
  rw [Field.names, List.forall_mem_cons, List.forall_mem_map] at named
  rw [Field.references, List.forall_mem_cons, List.forall_mem_map] at typesNamed
  have passed := @unbroken_argumentsText generator.runtime
    (generator.passedArguments field.arguments) runtime
    fun argument => unbroken_passedArgument named.2
  have parameters : ∀ parameter ∈ generator.argumentParameters field.arguments,
      '\n' ∉ (parameter.text generator.runtime).toList := fun parameter =>
    unbroken_argumentParameter named.2 typesNamed.2
  have value := @unbroken_valueType generator field.type typesNamed.1
  have scope := @unbroken_scopeType generator config field.type typesNamed.1
  rw [fieldAccessor]
  split
  · refine ⟨fun line => plain_of_mem_memberLines, identifierUnbroken, parameters,
      ?_, value.1⟩
    unfold AccessorBody.text
    simp [Text.unbroken_quoted, passed]
  · refine ⟨fun line => plain_of_mem_memberLines, identifierUnbroken, ?_,
      ?_, by simp [AccessorBody.result]⟩
    · refine List.forall_mem_append.mpr
        ⟨parameters, List.forall_mem_singleton.mpr ?_⟩
      simp [Parameter.text, runtime, scope.1]
    · unfold AccessorBody.text
      simp [Text.unbroken_quoted, passed]

theorem unbroken_caseAccessor {typeName path : String}
    {possibleTypes : List String} (typeUnbroken : '\n' ∉ typeName.toList)
    (pathUnbroken : '\n' ∉ path.toList)
    (possibleNamed : ∀ possible ∈ possibleTypes, isName possible = true) :
    (generator.caseAccessor typeName path possibleTypes).Unbroken
      generator.runtime := by
  have runtime := unbroken_runtime config
  have identifiers : ∀ identifier ∈ generator.fieldIdentifiers possibleTypes,
      '\n' ∉ identifier.toList := fun identifier =>
    unbroken_fieldIdentifiers possibleNamed
  refine ⟨List.forall_mem_singleton.mpr ?_, by simp [caseAccessor], ?_, ?_,
    by simp [caseAccessor, AccessorBody.result]⟩
  · simp [Plain, margin, docLink, typeUnbroken, pathUnbroken, List.getLast?_cons]
  · intro parameter member
    obtain ⟨possible, inTypes, identifier, inIdentifiers, rfl⟩ :=
      mem_zipWith member
    have scope := @unbroken_namedPath generator possible
      (possibleNamed possible inTypes)
    simp [Parameter.text, TypeExpr.text, identifiers identifier inIdentifiers,
      scope, runtime]
  · have cases : '\n' ∉ (", ".intercalate
        ((generator.fieldIdentifiers possibleTypes).map fun case =>
          generator.runtime ++ "::Case::new(" ++ case ++ ")")).toList := by
      refine unbroken_intercalate (by simp) (List.forall_mem_map.mpr ?_)
      intro identifier member
      simp [runtime, identifiers identifier member]
    unfold caseAccessor AccessorBody.text
    dsimp only
    generalize ", ".intercalate _ = listed at cases
    simp [cases]

theorem laid_accessorTrait {name : String} {place : Section} {fields : List Field}
    {possibleTypes : List String} (named : isName name = true)
    (fieldsNamed : ∀ name ∈ fields.flatMap Field.names, isName name = true)
    (typesNamed : ∀ name ∈ fields.flatMap Field.references, isName name = true)
    (possibleNamed : ∀ possible ∈ possibleTypes, isName possible = true) :
    Laid [name ++ "Fields"]
        ((generator.accessorTrait name place fields possibleTypes).code
          generator.runtime) ∧
      Ended
        ((generator.accessorTrait name place fields possibleTypes).code
          generator.runtime) := by
  have runtime := unbroken_runtime config
  have typeName : '\n' ∉ name.toList :=
    (Spelled.of_isName named).unbroken
  have path : '\n' ∉
      (itemPath place (generator.policy.typeIdentifier name)).toList :=
    unbroken_itemPath place (unbroken_typeIdentifier named)
  rw [List.forall_mem_flatMap] at fieldsNamed typesNamed
  have each : ∀ accessor ∈
      (generator.accessorTrait name place fields possibleTypes).accessors,
      accessor.Unbroken generator.runtime := by
    intro accessor member
    rcases List.mem_append.mp member with ofField | ofCases
    · obtain ⟨field, inFields, identifier, inIdentifiers, rfl⟩ :=
        mem_zipWith ofField
      refine unbroken_fieldAccessor config ?_ (fieldsNamed field inFields)
        (typesNamed field inFields)
      refine unbroken_fieldIdentifiers ?_ inIdentifiers
      exact List.forall_mem_map.mpr fun field inFields =>
        fieldsNamed field inFields field.name List.mem_cons_self
    · split at ofCases
      · obtain rfl := List.mem_singleton.mp ofCases
        exact unbroken_caseAccessor config typeName path possibleNamed
      · contradiction
  have traitSpelled : Spelled (name ++ "Fields").toList := by
    rw [String.toList_append]
    exact (Spelled.of_isName named).append (by decide)
  refine ⟨.cons (.line ?_) (.cons_item ?_ ?_), .closed rfl⟩
  · simp [Plain, accessorTrait, docLink, typeName, path, List.getLast?_cons]
  · exact .item (by decide) traitSpelled (by simp) (by simp) (by simp)
  · simp only [List.forall_mem_cons]
    refine ⟨.paragraphs ?_, .line (by simp [Plain]), .empty,
      .line (by simp [Plain]), .line ?_, .paragraphs ?_, .line (by simp [Plain]),
      by simp⟩
    · exact List.forall_mem_map.mpr fun accessor member =>
        (each accessor member).laid_declaration runtime
    · simp [Plain, accessorTrait, AccessorTrait.name, typeName, runtime, path,
        List.getLast?_cons]
    · exact List.forall_mem_map.mpr fun accessor member =>
        (each accessor member).laid_implementation runtime

end Generator

end TypedGraphQL
