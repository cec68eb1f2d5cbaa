import TypedGraphQL.Binding.File
import TypedGraphQL.Proofs.Binding.Item
import TypedGraphQL.Proofs.Text.Lines

namespace TypedGraphQL

open Code (Remark Plain Declares)
open Syntax (isName)

theorem Code.Plain.margin {text : String} (plain : Plain text) :
    Plain (margin ++ text) := by
  obtain ⟨unbroken, kept, -⟩ := plain
  refine ⟨by simpa [TypedGraphQL.margin] using unbroken, ?_,
    by simp [TypedGraphQL.margin]⟩
  rw [String.toList_append, List.getLast?_append]
  cases found : text.toList.getLast? <;> simp_all [TypedGraphQL.margin]

theorem DocComment.exists_of_mem_lines {text indentation line : String}
    (member : line ∈ lines text indentation) :
    ∃ comment, line = indentation ++ comment ∧ Remark comment ∧
      Plain comment := by
  obtain ⟨content, inText, rfl⟩ := List.mem_map.mp member
  rw [DocComment.line]
  split
  · exact ⟨"///", rfl, ⟨rfl, by decide⟩, by decide, by decide, by decide⟩
  next begun =>
    have unbroken : '\n' ∉ Text.trimEnd content := fun feed =>
      Text.unbroken_of_mem_lines inText (Text.trimEnd_subset content feed)
    have kept : (Text.trimEnd content).getLast? ≠ some '\r' :=
      Text.getLast?_trimEnd_ne (by decide) content
    rw [String.append_assoc]
    refine ⟨_, rfl, ⟨?_, ?_⟩, ?_, ?_, ?_⟩
    · simp [Code.isPreamble]
    · simpa using unbroken
    · simpa using unbroken
    · cases found : (Text.trimEnd content).getLast? <;>
        simp_all [List.getLast?_cons]
    · simp

theorem remark_of_mem_typeLines {name line : String} {description : Option String}
    (member : line ∈ typeLines name description) :
    Remark line ∧ Plain line := by
  obtain ⟨comment, rfl, facts⟩ := DocComment.exists_of_mem_lines member
  rwa [String.empty_append]

theorem plain_of_mem_memberLines {member : Member} {line : String}
    (inLines : line ∈ memberLines margin member) : Plain line := by
  rcases List.mem_append.mp inLines with comment | deprecation
  · split at comment
    · obtain ⟨text, rfl, -, plain⟩ := DocComment.exists_of_mem_lines comment
      exact plain.margin
    · contradiction
  · rw [deprecationLines] at deprecation
    split at deprecation
    · obtain rfl := List.mem_singleton.mp deprecation
      simp [Plain, margin, Text.unbroken_quoted, List.getLast?_cons]
    · contradiction

theorem unbroken_itemPath (place : Section) {identifier : String}
    (unbroken : '\n' ∉ identifier.toList) :
    '\n' ∉ (itemPath place identifier).toList := by
  cases place <;> simpa [itemPath, Section.moduleName] using unbroken

namespace Generator

variable {generator : Generator} {name : String} {description : Option String}

theorem declares_scalarAlias {code : String}
    (emitted : generator.scalarAlias? name description = some code) :
    Declares code "pub type " (generator.policy.typeIdentifier name) := by
  rw [scalarAlias?] at emitted
  split at emitted
  · contradiction
  · cases emitted
    refine .remarks (fun line member => (remark_of_mem_typeLines member).1) ?_
    simp only [String.append_assoc]
    rw [← String.append_assoc]
    exact .item (by simp) []

def enumRemarks (generator : Generator) (name : String)
    (description : Option String) : List String :=
  typeLines name description
    ++ ["#[derive(Debug, Clone, Copy, PartialEq, Eq, Hash, Serialize, Deserialize)]",
        "#[serde(crate = " ++ Text.quoted (generator.runtime ++ "::serde") ++ ")]"]

theorem remark_of_mem_enumRemarks :
    ∀ line ∈ generator.enumRemarks name description, Remark line := by
  refine List.forall_mem_append.mpr
    ⟨fun line member => (remark_of_mem_typeLines member).1, ?_⟩
  simp only [List.forall_mem_cons]
  refine ⟨⟨rfl, by decide⟩, ⟨?_, ?_⟩, by simp⟩
  · simp [Code.isPreamble]
  · simp [Text.unbroken_quoted]

theorem enumDeclaration_eq {values : List EnumValue} :
    generator.enumDeclaration name description values =
      Text.joinLines (generator.enumRemarks name description
        ++ ["pub enum " ++ generator.policy.typeIdentifier name ++ " \x7b",
            Text.joinParagraphs
              ((generator.enumCases values).map EnumCase.declaration),
            "\x7d"]) := by
  simp [enumDeclaration, enumRemarks]

theorem declares_enumDeclaration {values : List EnumValue} :
    Declares (generator.enumDeclaration name description values) "pub enum "
      (generator.policy.typeIdentifier name) := by
  rw [enumDeclaration_eq]
  exact .remarks remark_of_mem_enumRemarks (.item (by simp) _)

theorem declares_marker :
    Declares (generator.marker name description) "pub struct "
      (generator.policy.typeIdentifier name) :=
  .remarks (fun line member => (remark_of_mem_typeLines member).1)
    (.remark ⟨rfl, by decide⟩ (.item (by simp) _))

theorem declares_interfaceMarker {possibleTypes : List String} :
    Declares (generator.interfaceMarker name description possibleTypes)
      "pub struct " (generator.policy.typeIdentifier name) := by
  obtain ⟨tail, equal⟩ := Code.exists_intercalate_cons "\n\n"
    (generator.marker name description)
    (generator.polymorphism name possibleTypes)
  rw [interfaceMarker, Text.joinParagraphs, equal]
  exact declares_marker.append tail

def unionRemarks (name : String) (description : Option String) : List String :=
  typeLines name description
    ++ ["#[derive(Debug, Clone, Copy, PartialEq, Eq, Hash)]"]

theorem remark_of_mem_unionRemarks :
    ∀ line ∈ unionRemarks name description, Remark line := by
  refine List.forall_mem_append.mpr
    ⟨fun line member => (remark_of_mem_typeLines member).1, ?_⟩
  exact List.forall_mem_singleton.mpr ⟨rfl, by decide⟩

theorem unionDeclaration_eq {cases : List UnionCase} :
    generator.unionDeclaration name description cases =
      Text.joinLines (unionRemarks name description
        ++ ["pub enum " ++ generator.policy.typeIdentifier name ++ " \x7b",
            Text.joinLines (cases.map UnionCase.declaration),
            "\x7d"]) := by
  simp [unionDeclaration, unionRemarks]

theorem declares_unionMarker {possibleTypes : List String} :
    Declares (generator.unionMarker name description possibleTypes) "pub enum "
      (generator.policy.typeIdentifier name) := by
  have declares : Declares
      (generator.unionDeclaration name description
        (generator.unionCases possibleTypes)) "pub enum "
      (generator.policy.typeIdentifier name) := by
    rw [unionDeclaration_eq]
    exact .remarks remark_of_mem_unionRemarks (.item (by simp) _)
  obtain ⟨tail, equal⟩ := Code.exists_intercalate_cons "\n\n"
    (generator.unionDeclaration name description
      (generator.unionCases possibleTypes))
    (generator.unionNames name (generator.unionCases possibleTypes)
      :: generator.scopeImplementation name
      :: generator.polymorphism name possibleTypes)
  have whole := declares.append tail
  rwa [← equal] at whole

theorem declares_inputObject {fields : List InputValue} :
    Declares (generator.inputObject name description fields) "pub struct "
      (generator.policy.typeIdentifier name) := by
  rw [inputObject]
  simp only [List.append_assoc]
  exact .remarks (fun line member => (remark_of_mem_typeLines member).1)
    (.remark ⟨rfl, by decide⟩ (.item (by simp) _))

theorem declares_accessorTrait {place : Section} {fields : List Field}
    {possibleTypes : List String} (named : isName name = true) :
    Declares
      ((generator.accessorTrait name place fields possibleTypes).code
        generator.runtime) "pub trait " (name ++ "Fields") := by
  have path : '\n' ∉
      (itemPath place (generator.policy.typeIdentifier name)).toList :=
    unbroken_itemPath place
      (IdentifierPolicy.spelled_typeIdentifier named).unbroken
  have typeName : '\n' ∉ name.toList :=
    (Spelled.of_isName named).unbroken
  refine .remark ⟨?_, ?_⟩ (.item (by simp) _)
  · simp [Code.isPreamble]
  · simp [accessorTrait, docLink, path, typeName]

section Items

variable (named : isName name = true)

include named

theorem item?_scalarAlias {code : String}
    (emitted : generator.scalarAlias? name description = some code) :
    Code.item? code = some (generator.policy.typeIdentifier name) :=
  (declares_scalarAlias emitted).item?_eq (by decide)
    (IdentifierPolicy.spelled_typeIdentifier named)

theorem item?_enumDeclaration {values : List EnumValue} :
    Code.item? (generator.enumDeclaration name description values) =
      some (generator.policy.typeIdentifier name) :=
  declares_enumDeclaration.item?_eq (by decide)
    (IdentifierPolicy.spelled_typeIdentifier named)

theorem item?_marker :
    Code.item? (generator.marker name description) =
      some (generator.policy.typeIdentifier name) :=
  declares_marker.item?_eq (by decide)
    (IdentifierPolicy.spelled_typeIdentifier named)

theorem item?_interfaceMarker {possibleTypes : List String} :
    Code.item? (generator.interfaceMarker name description possibleTypes) =
      some (generator.policy.typeIdentifier name) :=
  declares_interfaceMarker.item?_eq (by decide)
    (IdentifierPolicy.spelled_typeIdentifier named)

theorem item?_unionMarker {possibleTypes : List String} :
    Code.item? (generator.unionMarker name description possibleTypes) =
      some (generator.policy.typeIdentifier name) :=
  declares_unionMarker.item?_eq (by decide)
    (IdentifierPolicy.spelled_typeIdentifier named)

theorem item?_inputObject {fields : List InputValue} :
    Code.item? (generator.inputObject name description fields) =
      some (generator.policy.typeIdentifier name) :=
  declares_inputObject.item?_eq (by decide)
    (IdentifierPolicy.spelled_typeIdentifier named)

theorem item?_accessorTrait {place : Section} {fields : List Field}
    {possibleTypes : List String} :
    Code.item?
        ((generator.accessorTrait name place fields possibleTypes).code
          generator.runtime) = some (name ++ "Fields") := by
  refine (declares_accessorTrait named).item?_eq (by decide) ?_
  rw [String.toList_append]
  exact (Spelled.of_isName named).append (by decide)

end Items

theorem item?_enumImplementation {values : List EnumValue} :
    Code.item? (generator.enumImplementation name values) = none := by
  obtain ⟨tail, equal⟩ := Code.exists_intercalate_cons "\n\n"
    (generator.enumNames name (generator.enumCases values))
    (((generator.enumCases values).head?.map (generator.enumLeaf name)).toList
      ++ [generator.enumArgument name])
  have whole : generator.enumImplementation name values =
      generator.enumNames name (generator.enumCases values) ++ tail := equal
  rw [whole]
  exact Code.item?_joinLines_eq_none ⟨rfl, by decide⟩ (by simp) tail

theorem item?_operationBlock {kind : String} {root : Option String} {block : Block}
    (emitted : generator.operationBlock? kind root = some block) :
    block.place = .operations ∧ Code.item? block.code = none := by
  obtain ⟨rootName, -, emitted⟩ := Option.bind_eq_some_iff.mp emitted
  split at emitted
  · cases emitted
    refine ⟨rfl, Code.item?_eq_none ?_⟩
    simp [Text.joinLines, String.intercalate_cons_cons]
  · contradiction

end Generator

end TypedGraphQL
