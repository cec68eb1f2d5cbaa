import TypedGraphQL.Proofs.Binding.AccessorLines
import TypedGraphQL.Proofs.Schema.WellFormed

namespace TypedGraphQL

open Code (Plain Laid Ended)
open Syntax (isName)

namespace Generator

variable {generator : Generator}

theorem laid_of_mem_typeLines {name : String} {description : Option String} :
    ∀ line ∈ typeLines name description, Laid [] line :=
  fun _ member => .line (remark_of_mem_typeLines member).2

theorem laid_enumCase {case : EnumCase} (spelled : Spelled case.variant.toList) :
    Laid [] case.declaration := by
  have variant : '\n' ∉ case.variant.toList := spelled.unbroken
  refine .append (fun line member => .line (plain_of_mem_memberLines member))
    (.plain ?_)
  simp [Plain, margin, Text.unbroken_quoted, variant, List.getLast?_cons]

theorem laid_enumDeclaration {name : String} {description : Option String}
    {values : List EnumValue} (named : isName name = true)
    (valuesNamed : ∀ value ∈ values, isName value.name = true) :
    Laid [generator.policy.typeIdentifier name]
        (generator.enumDeclaration name description values) ∧
      Ended (generator.enumDeclaration name description values) := by
  constructor
  · refine .append laid_of_mem_typeLines
      (.cons (.line (by simp [Plain])) (.cons (.line ?_) (.cons_item ?_ ?_)))
    · simp [Plain, Text.unbroken_quoted, List.getLast?_cons]
    · exact .item (by decide) (IdentifierPolicy.spelled_typeIdentifier named)
        (by simp) (by simp) (by simp)
    · simp only [List.forall_mem_cons]
      refine ⟨.paragraphs ?_, .line (by simp [Plain]), by simp⟩
      refine List.forall_mem_map.mpr fun case member => ?_
      exact laid_enumCase (spelled_enumVariant valuesNamed member)
  · exact .closed (by simp)

theorem plain_enumNameArm {enumName : String} {case : EnumCase}
    (identifier : '\n' ∉ enumName.toList) (spelled : Spelled case.variant.toList) :
    Plain (case.nameArm enumName) := by
  have variant : '\n' ∉ case.variant.toList := spelled.unbroken
  unfold EnumCase.nameArm
  simp [Plain, Text.unbroken_quoted, identifier, variant, List.getLast?_cons]

theorem laid_enumNames {name : String} {cases : List EnumCase}
    (named : isName name = true)
    (spelled : ∀ case ∈ cases, Spelled case.variant.toList) :
    Laid [] (generator.enumNames name cases) ∧
      Ended (generator.enumNames name cases) := by
  have identifier := @unbroken_typeIdentifier generator name named
  have paths : '\n' ∉ (", ".intercalate (cases.map fun case =>
      generator.policy.typeIdentifier name ++ "::" ++ case.variant)).toList := by
    refine unbroken_intercalate (by simp) (List.forall_mem_map.mpr ?_)
    intro case member
    have variant : '\n' ∉ case.variant.toList :=
      (spelled case member).unbroken
    simp [identifier, variant]
  refine ⟨.plain ?_, .closed (by rw [List.getLast?_append]; rfl)⟩
  refine List.forall_mem_append.mpr
    ⟨List.forall_mem_append.mpr ⟨?_, ?_⟩, by simp [Plain]⟩
  · generalize ", ".intercalate _ = listed at paths
    simp [Plain, identifier, paths, List.getLast?_cons]
  · exact List.forall_mem_map.mpr fun case member =>
      plain_enumNameArm identifier (spelled case member)

theorem laid_unionDeclaration {name : String} {description : Option String}
    {cases : List UnionCase} (named : isName name = true)
    (spelled : ∀ case ∈ cases, Spelled case.variant.toList) :
    Laid [generator.policy.typeIdentifier name]
        (generator.unionDeclaration name description cases) ∧
      Ended (generator.unionDeclaration name description cases) := by
  constructor
  · refine .append laid_of_mem_typeLines
      (.cons (.line (by simp [Plain])) (.cons_item ?_ ?_))
    · exact .item (by decide) (IdentifierPolicy.spelled_typeIdentifier named)
        (by simp) (by simp) (by simp)
    · simp only [List.forall_mem_cons]
      refine ⟨.plain ?_, .line (by simp [Plain]), by simp⟩
      refine List.forall_mem_map.mpr fun case member => ?_
      have variant : '\n' ∉ case.variant.toList :=
        (spelled case member).unbroken
      unfold UnionCase.declaration
      simp [Plain, margin, variant, List.getLast?_cons]
  · exact .closed (by simp)

theorem laid_unionNames {name : String} {cases : List UnionCase}
    (named : isName name = true)
    (spelled : ∀ case ∈ cases, Spelled case.variant.toList) :
    Laid [] (generator.unionNames name cases) ∧
      Ended (generator.unionNames name cases) := by
  have identifier := @unbroken_typeIdentifier generator name named
  have variants : ∀ case ∈ cases, '\n' ∉ case.variant.toList :=
    fun case member => (spelled case member).unbroken
  refine ⟨.plain ?_, .closed (by rw [List.getLast?_append]; rfl)⟩
  simp only [List.forall_mem_append, List.forall_mem_map]
  refine ⟨⟨⟨⟨?_, fun case member => ?_⟩, by simp [Plain]⟩, fun case member => ?_⟩,
    by simp [Plain]⟩
  · simp [Plain, identifier, List.getLast?_cons]
  · unfold UnionCase.nameArm
    simp [Plain, Text.unbroken_quoted, identifier, variants case member,
      List.getLast?_cons]
  · unfold UnionCase.variantArm
    simp [Plain, Text.unbroken_quoted, identifier, variants case member,
      List.getLast?_cons]

theorem laid_inputField {fields : List InputValue} {field : InputField}
    (named : ∀ field ∈ fields, isName field.name = true)
    (typesNamed : ∀ field ∈ fields, isName field.type.baseName = true)
    (member : field ∈ generator.inputFields fields) :
    Laid [] field.declaration := by
  obtain ⟨given, inFields, identifier, inIdentifiers, rfl⟩ := mem_zipWith member
  have unbroken := unbroken_fieldIdentifiers (List.forall_mem_map.mpr named)
    inIdentifiers
  have type := @unbroken_inputFieldType generator given.type
    (typesNamed given inFields)
  refine .append (fun line member => .line (plain_of_mem_memberLines member))
    (.plain ?_)
  simp [Plain, margin, unbroken, type, List.getLast?_cons]

section Configured

variable (config : generator.config.Unbroken)

include config

section Named

variable {name : String} {description : Option String} (named : isName name = true)

include named

theorem laid_scalarAlias {code : String}
    (emitted : generator.scalarAlias? name description = some code) :
    Laid [generator.policy.typeIdentifier name] code ∧ Ended code := by
  rw [scalarAlias?] at emitted
  split at emitted
  · contradiction
  · cases emitted
    have type := unbroken_scalarType config name
    constructor
    · refine .append laid_of_mem_typeLines (.cons_item ?_ (by simp))
      simp only [String.append_assoc]
      rw [← String.append_assoc]
      exact .item (by decide) (IdentifierPolicy.spelled_typeIdentifier named)
        (by simp) (by simp [type]) (by simp [List.getLast?_cons])
    · exact .intercalate List.getLast?_concat
        ⟨';', by simp [List.getLast?_cons], by decide⟩

theorem laid_enumLeaf {first : EnumCase}
    (spelled : Spelled first.variant.toList) :
    Laid [] (generator.enumLeaf name first) ∧
      Ended (generator.enumLeaf name first) := by
  have runtime := unbroken_runtime config
  have identifier := @unbroken_typeIdentifier generator name named
  have variant : '\n' ∉ first.variant.toList := spelled.unbroken
  have kept : first.variant.toList.getLast?.getD ':' ≠ '\r' := by
    cases found : first.variant.toList.getLast? with
    | none => decide
    | some c =>
        rintro rfl
        exact spelled.not_mem (by decide) (List.mem_of_getLast? found)
  refine ⟨.plain ?_, .closed rfl⟩
  simp [Plain, runtime, identifier, variant, kept, List.getLast?_cons]

theorem laid_enumArgument :
    Laid [] (generator.enumArgument name) ∧
      Ended (generator.enumArgument name) := by
  have runtime := unbroken_runtime config
  have identifier := @unbroken_typeIdentifier generator name named
  refine ⟨.plain ?_, .closed rfl⟩
  simp [Plain, runtime, identifier, List.getLast?_cons]

theorem laid_enumImplementation {values : List EnumValue}
    (valuesNamed : ∀ value ∈ values, isName value.name = true) :
    Laid [] (generator.enumImplementation name values) ∧
      Ended (generator.enumImplementation name values) := by
  have spelled : ∀ case ∈ generator.enumCases values,
      Spelled case.variant.toList := fun case => spelled_enumVariant valuesNamed
  have leaf : ∀ text ∈ ((generator.enumCases values).head?.map
      (generator.enumLeaf name)).toList, Laid [] text := by
    intro text member
    obtain ⟨first, found, rfl⟩ := Option.map_eq_some_iff.mp
      (Option.mem_toList.mp member)
    exact (laid_enumLeaf config named
      (spelled first (List.mem_of_head? found))).1
  have names := @laid_enumNames generator name _ named spelled
  have argument := laid_enumArgument config named
  refine ⟨.first names.1 ?_, .intercalate List.getLast?_concat argument.2⟩
  exact List.forall_mem_append.mpr
    ⟨leaf, List.forall_mem_singleton.mpr argument.1⟩

/-! Objects, interfaces and unions -/

theorem laid_scopeImplementation :
    Laid [] (generator.scopeImplementation name) ∧
      Ended (generator.scopeImplementation name) := by
  have runtime := unbroken_runtime config
  have identifier := @unbroken_typeIdentifier generator name named
  refine ⟨.lines ?_, .closed (by simp)⟩
  simp only [List.forall_mem_cons]
  refine ⟨.line ?_, .line ?_, .line (by simp [Plain]), by simp⟩
  · simp [Plain, runtime, identifier, List.getLast?_cons]
  · simp [Plain, Text.unbroken_quoted, List.getLast?_cons]

theorem laid_marker :
    Laid [generator.policy.typeIdentifier name]
        (generator.marker name description) ∧
      Ended (generator.marker name description) := by
  obtain ⟨laid, ended⟩ := laid_scopeImplementation config named
  constructor
  · refine .append laid_of_mem_typeLines
      (.cons (.line (by simp [Plain])) (.cons_item ?_ ?_))
    · exact .item (by decide) (IdentifierPolicy.spelled_typeIdentifier named)
        (by simp) (by simp) (by simp)
    · simp only [List.forall_mem_cons]
      exact ⟨.empty, laid, by simp⟩
  · exact .intercalate (by simp) ended

theorem laid_polymorphism {possibleTypes : List String}
    (possibleNamed : ∀ possible ∈ possibleTypes, isName possible = true) :
    ∀ text ∈ generator.polymorphism name possibleTypes,
      Laid [] text ∧ Ended text := by
  have runtime := unbroken_runtime config
  have identifier := @unbroken_typeIdentifier generator name named
  rw [polymorphism, List.forall_mem_cons, List.forall_mem_map]
  refine ⟨⟨.line ?_, '\x7d', ?_, by decide⟩, fun possible member =>
    ⟨.line ?_, '\x7d', ?_, by decide⟩⟩
  · simp [Plain, runtime, identifier, List.getLast?_cons]
  · simp [List.getLast?_cons]
  · have path := @unbroken_namedPath generator possible
      (possibleNamed possible member)
    simp [Plain, runtime, identifier, path, List.getLast?_cons]
  · simp [List.getLast?_cons]

theorem laid_interfaceMarker {possibleTypes : List String}
    (possibleNamed : ∀ possible ∈ possibleTypes, isName possible = true) :
    Laid [generator.policy.typeIdentifier name]
        (generator.interfaceMarker name description possibleTypes) ∧
      Ended (generator.interfaceMarker name description possibleTypes) := by
  have marker := @laid_marker generator config name description named
  have others := laid_polymorphism config named possibleNamed
  refine ⟨.first marker.1 fun text member => (others text member).1,
    .paragraphs (List.cons_ne_nil _ _) ?_⟩
  exact List.forall_mem_cons.mpr
    ⟨marker.2, fun text member => (others text member).2⟩

theorem laid_unionMarker {possibleTypes : List String}
    (possibleNamed : ∀ possible ∈ possibleTypes, isName possible = true) :
    Laid [generator.policy.typeIdentifier name]
        (generator.unionMarker name description possibleTypes) ∧
      Ended (generator.unionMarker name description possibleTypes) := by
  have spelled : ∀ case ∈ generator.unionCases possibleTypes,
      Spelled case.variant.toList := fun case =>
    spelled_unionVariant possibleNamed
  have declaration := @laid_unionDeclaration generator name description _ named
    spelled
  have names := @laid_unionNames generator name _ named spelled
  have scope := laid_scopeImplementation config named
  have others := laid_polymorphism config named possibleNamed
  have each : ∀ text ∈ generator.unionNames name
        (generator.unionCases possibleTypes)
      :: generator.scopeImplementation name
      :: generator.polymorphism name possibleTypes, Laid [] text ∧ Ended text :=
    List.forall_mem_cons.mpr ⟨names, List.forall_mem_cons.mpr ⟨scope, others⟩⟩
  refine ⟨.first declaration.1 fun text member => (each text member).1,
    .paragraphs (List.cons_ne_nil _ _) ?_⟩
  exact List.forall_mem_cons.mpr
    ⟨declaration.2, fun text member => (each text member).2⟩

theorem laid_inputObject {fields : List InputValue}
    (fieldsNamed : ∀ field ∈ fields, isName field.name = true)
    (typesNamed : ∀ field ∈ fields, isName field.type.baseName = true) :
    Laid [generator.policy.typeIdentifier name]
        (generator.inputObject name description fields) ∧
      Ended (generator.inputObject name description fields) := by
  have runtime := unbroken_runtime config
  have identifier := @unbroken_typeIdentifier generator name named
  have passed : ∀ argument ∈ generator.passedArguments fields,
      Plain argument.fieldText := by
    intro argument member
    have unbroken := unbroken_passedArgument fieldsNamed member
    unfold PassedArgument.fieldText
    simp [Plain, unbroken_call argument, unbroken, List.getLast?_cons]
  rw [inputObject]
  refine ⟨?_, .closed (by rw [List.getLast?_append]; rfl)⟩
  simp only [List.append_assoc, List.cons_append, List.nil_append]
  refine .append laid_of_mem_typeLines
    (.cons (.line (by simp [Plain])) (.cons_item ?_ ?_))
  · exact .item (by decide) (IdentifierPolicy.spelled_typeIdentifier named)
      (by simp) (by simp) (by simp)
  · refine List.forall_mem_cons.mpr ⟨.lines ?_, fun line member => .line ?_⟩
    · exact List.forall_mem_map.mpr fun field =>
        laid_inputField fieldsNamed typesNamed
    · revert line
      simp only [List.forall_mem_cons, List.forall_mem_append, List.forall_mem_map]
      refine ⟨by simp [Plain], by simp [Plain], by simp [Plain], ?_, ?_, ?_,
        passed, by simp [Plain], by simp [Plain], by simp [Plain], by simp⟩
      · simp [Plain, runtime, identifier, List.getLast?_cons]
      · simp [Plain, runtime, List.getLast?_cons]
      · simp [Plain, runtime, List.getLast?_cons]

end Named

theorem laid_operationBlock {kind : String} {root : Option String} {block : Block}
    (kindUnbroken : '\n' ∉ kind.toList)
    (rootNamed : ∀ name, root = some name → isName name = true)
    (emitted : generator.operationBlock? kind root = some block) :
    Laid (Code.item? block.code).toList block.code ∧ Ended block.code := by
  have runtime := unbroken_runtime config
  rw [(item?_operationBlock emitted).2]
  obtain ⟨name, found, emitted⟩ := Option.bind_eq_some_iff.mp emitted
  have path := @unbroken_namedPath generator name (rootNamed name found)
  split at emitted
  · cases emitted
    dsimp only
    refine ⟨.plain ?_, .closed rfl⟩
    simp [Plain, runtime, path, kindUnbroken, List.getLast?_cons]
  · contradiction

theorem laid_typeBlocks {type : NamedType} (named : isName type.name = true)
    (members : ∀ name ∈ type.body.names, isName name = true)
    (references : ∀ name ∈ type.body.references, isName name = true) :
    ∀ block ∈ generator.typeBlocks type,
      Laid (Code.item? block.code).toList block.code ∧ Ended block.code := by
  obtain ⟨name, description, body⟩ := type
  cases body with
  | scalar =>
      intro block member
      obtain ⟨code, emitted, rfl⟩ := Option.map_eq_some_iff.mp
        (Option.mem_toList.mp member)
      rw [item?_scalarAlias named emitted]
      exact laid_scalarAlias config named emitted
  | object fields interfaces =>
      rw [TypeBody.references, List.forall_mem_append] at references
      simp only [typeBlocks, accessorBlock, List.forall_mem_cons]
      rw [item?_marker named, item?_accessorTrait named]
      exact ⟨laid_marker config named,
        laid_accessorTrait config named members references.1 (by simp), by simp⟩
  | interface fields possibleTypes =>
      rw [TypeBody.references, List.forall_mem_append] at references
      simp only [typeBlocks, accessorBlock, List.forall_mem_cons]
      rw [item?_interfaceMarker named, item?_accessorTrait named]
      exact ⟨laid_interfaceMarker config named references.2,
        laid_accessorTrait config named members references.1 references.2, by simp⟩
  | union possibleTypes =>
      simp only [typeBlocks, accessorBlock, List.forall_mem_cons]
      rw [item?_unionMarker named, item?_accessorTrait named]
      exact ⟨laid_unionMarker config named references,
        laid_accessorTrait config named (by simp) (by simp) references, by simp⟩
  | enum values =>
      rw [TypeBody.names, List.forall_mem_map] at members
      simp only [typeBlocks, List.forall_mem_cons]
      rw [item?_enumDeclaration named, item?_enumImplementation]
      exact ⟨laid_enumDeclaration named members,
        laid_enumImplementation config named members, by simp⟩
  | inputObject fields =>
      rw [TypeBody.names, List.forall_mem_map] at members
      rw [TypeBody.references, List.forall_mem_map] at references
      simp only [typeBlocks, List.forall_mem_cons]
      rw [item?_inputObject named]
      exact ⟨laid_inputObject config named members references, by simp⟩

/--
Blocks are laid out in lines, the last of which is not empty, and a block
declares nothing but the item that it starts with.
-/
theorem laid_of_mem_blocks {types : List NamedType} {roots : RootTypes}
    (accepted : Schema.resolve types roots = .ok generator.schema)
    (named : generator.schema.Named) :
    ∀ block ∈ generator.blocks,
      Laid (Code.item? block.code).toList block.code ∧ Ended block.code := by
  obtain ⟨-, -, resolved⟩ := Schema.resolve_eq_ok_iff.mp accepted
  have references : ∀ name ∈ generator.schema.references, isName name = true :=
    fun name member => named.isName_of_resolves (resolved name member)
  rw [Schema.references, List.forall_mem_append,
    List.forall_mem_flatMap] at references
  refine List.forall_mem_append.mpr ⟨?_, ?_⟩
  · refine List.forall_mem_flatMap.mpr fun type member => ?_
    exact laid_typeBlocks config (named type member).1 (named type member).2
      (references.1 type member)
  · intro block member
    obtain ⟨given, found, rfl⟩ := List.mem_filterMap.mp member
    have rootNamed : ∀ name ∈ generator.schema.roots.names, isName name = true :=
      references.2
    simp only [List.mem_cons, List.not_mem_nil, or_false] at found
    obtain emitted | emitted | emitted := found
    all_goals
      refine laid_operationBlock config (by simp) (fun name root => ?_)
        emitted.symm
      exact rootNamed name (by simp [RootTypes.names, root])

end Configured

end Generator

end TypedGraphQL
