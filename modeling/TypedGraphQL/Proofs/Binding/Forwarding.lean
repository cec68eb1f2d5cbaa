import TypedGraphQL.Proofs.Binding.Unbroken
import TypedGraphQL.Proofs.Introspection.RoundTrip
import TypedGraphQL.Proofs.Binding.Scope

namespace TypedGraphQL

open Syntax (isName isNameContinue)

theorem Text.quotedChar_of_isNameContinue {c : Char}
    (word : isNameContinue c = true) : Text.quotedChar c = [c] := by
  have plain : ∀ c : Char, c.toNat < 0x80 → isNameContinue c = true →
      quotedChar c = [c] := Syntax.forall_toNat_lt (by decide)
  exact plain c (toNat_lt_of_isNameContinue word) word

def Text.literal (name : String) : String :=
  "\"" ++ name ++ "\""

theorem Text.quoted_of_isName {name : String} (named : isName name = true) :
    quoted name = literal name := by
  have plain : name.toList.flatMap quotedChar = name.toList := by
    have spelled := Spelled.of_isName named
    calc
      name.toList.flatMap quotedChar = name.toList.flatMap ([·]) :=
        List.flatMap_congr fun c member =>
          quotedChar_of_isNameContinue (spelled c member)
      _ = name.toList := List.flatMap_singleton' name.toList
  rw [quoted, plain, literal]
  simp [← String.toList_inj]

theorem forall₂_zipWith {α β γ : Type} {relation : α → γ → Prop}
    {combine : α → β → γ} {first : List α} {second : List β}
    (related : ∀ a b, relation a (combine a b))
    (complete : second.length = first.length) :
    List.Forall₂ relation first (List.zipWith combine first second) := by
  induction first generalizing second with
  | nil => exact .nil
  | cons a first ih =>
      cases second with
      | nil => contradiction
      | cons b second => exact .cons (related a b) (ih (by simpa using complete))

theorem forall₂_zipWith_zipWith {α β γ δ : Type} {relation : γ → δ → Prop}
    {combine : α → β → γ} {other : α → β → δ} {first : List α} {second : List β}
    (related : ∀ a ∈ first, ∀ b, relation (combine a b) (other a b)) :
    List.Forall₂ relation (List.zipWith combine first second)
      (List.zipWith other first second) := by
  induction first generalizing second with
  | nil => exact .nil
  | cons a first ih =>
      rw [List.forall_mem_cons] at related
      cases second with
      | nil => exact .nil
      | cons b second => exact .cons (related.1 b) (ih related.2)

theorem zipWith_congr {α β γ : Type} {combine other : α → β → γ} {first : List α}
    {second : List β} (same : ∀ a ∈ first, ∀ b, combine a b = other a b) :
    List.zipWith combine first second = List.zipWith other first second := by
  rw [← List.forall₂_eq_eq_eq]
  exact forall₂_zipWith_zipWith same

def TypeExpr.isOption (type : TypeExpr) : Bool :=
  "Option<".toList.isPrefixOf type.text.toList

namespace Generator

variable {generator : Generator}

theorem isOption_presentValueType {type : TypeRef}
    (named : isName type.baseName = true) :
    (generator.presentValueType type).isOption = false := by
  induction type with
  | named name =>
      rw [Bool.eq_false_iff]
      intro option
      have shared := List.isPrefixOf_iff_prefix.mp option
      have angle : '<' ∈ (generator.namedPath name).toList :=
        shared.subset (by decide)
      exact absurd (mem_namedPath named angle) (by decide)
  | nonNull inner ih => exact ih named
  | list element =>
      simp [presentValueType, TypeExpr.isOption, TypeExpr.text, List.isPrefixOf]

theorem isOption_valueType {type : TypeRef} (named : isName type.baseName = true) :
    (generator.valueType type).isOption = !type.isNonNull := by
  cases type with
  | named name => simp [valueType, TypeExpr.isOption, TypeExpr.text, TypeRef.isNonNull]
  | nonNull inner => exact isOption_presentValueType named
  | list element =>
      simp [valueType, TypeExpr.isOption, TypeExpr.text, TypeRef.isNonNull]

theorem isOption_inputFieldType {type : TypeRef}
    (named : isName type.baseName = true) :
    (generator.inputFieldType type).isOption = !type.isNonNull := by
  cases type with
  | named name =>
      rw [inputFieldType]
      split
      · simp [TypeExpr.isOption, TypeExpr.text, TypeRef.isNonNull]
      · exact isOption_valueType named
  | nonNull inner => exact @isOption_valueType generator (.nonNull inner) named
  | list element => exact @isOption_valueType generator (.list element) named

end Generator

/-! Scopes -/

/-- Identifiers for the names of one scope, apart from each other and some words. -/
structure IsScope (words names identifiers : List String) : Prop where
  complete : identifiers.length = names.length
  distinct : identifiers.Nodup
  free : ∀ identifier ∈ identifiers, identifier ∉ words

namespace Generator

variable (generator : Generator)

theorem isScope_fieldIdentifiers {words : List String}
    (reserved : ∀ word ∈ words, word ∈ IdentifierPolicy.standard.reserved)
    (names : List String) :
    IsScope words names (generator.fieldIdentifiers names) := by
  refine ⟨by simp [fieldIdentifiers], IdentifierPolicy.nodup_unique _, ?_⟩
  intro identifier member taken
  refine IdentifierPolicy.not_mem_standard_of_mem_unique ?_ member
    (reserved identifier taken)
  exact List.forall_mem_map.mpr fun name _ =>
    IdentifierPolicy.fieldIdentifier_not_mem_standard name

theorem isScope_parameters (names : List String) :
    IsScope ["self", "selection"] names (generator.fieldIdentifiers names) :=
  generator.isScope_fieldIdentifiers (by decide) names

theorem isScope_methods (names : List String) :
    IsScope
      ["is_recording", "leaf", "composite", "include", "typename", "fragments",
        "on"]
      names (generator.fieldIdentifiers names) :=
  generator.isScope_fieldIdentifiers (by decide) names

/-! Texts with the identifiers that they use -/

def forwardText (type : TypeExpr) (name reference : String) : String :=
  (if type.isOption then ".optional(" else ".arg(") ++ Text.literal name ++ ", &"
    ++ reference ++ ")"

def parameterTexts (arguments : List InputValue) (identifiers : List String) :
    List String :=
  "&mut self" :: List.zipWith
    (fun argument identifier =>
      identifier ++ ": " ++ (generator.valueType argument.type).text)
    arguments identifiers

def argumentsText (arguments : List InputValue) (identifiers : List String) :
    String :=
  generator.runtime ++ "::Arguments::new()" ++ String.join (List.zipWith
    (fun argument identifier =>
      forwardText (generator.valueType argument.type) argument.name identifier)
    arguments identifiers)

def resultText (result : String) : String :=
  ") -> Result<" ++ result ++ ", " ++ generator.runtime ++ "::DecodeError>"

def selectionText (scope : String) : String :=
  "&" ++ generator.runtime ++ "::SelectionSet<T, " ++ scope ++ ">"

end Generator

/-- A method of a trait: what stands before it, around its name, and inside. -/
structure MethodText where
  attributes : List String
  name : String
  scheme : String
  body : String

namespace MethodText

def signature (method : MethodText) : String :=
  "fn " ++ method.name ++ method.scheme

def declaration (method : MethodText) : String :=
  "\n".intercalate
    (method.attributes ++ ["    " ++ method.signature ++ ";"])

def implementation (method : MethodText) : String :=
  "\n".intercalate
    ["    " ++ method.signature ++ " \x7b",
      "        " ++ method.body,
      "    \x7d"]

structure IsOf (runtime : String) (accessor : Accessor) (method : MethodText) :
    Prop where
  declaration : accessor.declaration runtime = method.declaration
  implementation : accessor.implementation runtime = method.implementation

theorem isOf {runtime : String} {accessor : Accessor} {method : MethodText}
    (attributes : accessor.attributes = method.attributes)
    (signature : accessor.signature runtime = method.signature)
    (body : accessor.body.text runtime = method.body) :
    IsOf runtime accessor method := by
  constructor
  · rw [Accessor.declaration, attributes, signature]
    rfl
  · rw [Accessor.implementation, signature, body]
    rfl

end MethodText

namespace Generator

variable (generator : Generator)

/-- The accessor of a field, whose arguments go by some identifiers. -/
def fieldMethod (field : Field) (name : String) (identifiers : List String) :
    MethodText :=
  let parameters := generator.parameterTexts field.arguments identifiers
  let passed := generator.argumentsText field.arguments identifiers
  if generator.isLeaf field.type then
    { attributes := memberLines "    " field.toMember
      name := name
      scheme :=
        "(" ++ ", ".intercalate parameters
          ++ generator.resultText (generator.valueType field.type).text
      body := "self.leaf(" ++ Text.literal field.name ++ ", " ++ passed ++ ")" }
  else
    { attributes := memberLines "    " field.toMember
      name := name
      scheme :=
        "<T: 'static>("
          ++ ", ".intercalate (parameters
            ++ ["selection: "
              ++ generator.selectionText (generator.scopeType field.type).text])
          ++ generator.resultText "T"
      body :=
        "self.composite(" ++ Text.literal field.name ++ ", " ++ passed
          ++ ", selection)" }

def linkText (typeName path : String) : String :=
  "[`" ++ typeName ++ "`](" ++ path ++ ")"

/-- The accessor that takes a selection and makes a case for each possible type. -/
def caseMethod (typeName path : String) (possibleTypes identifiers : List String) :
    MethodText where
  attributes :=
    ["    /// Selects one branch per concrete type of "
      ++ linkText typeName path ++ "."]
  name := "on"
  scheme :=
    "<T: 'static>("
      ++ ", ".intercalate ("&mut self" :: List.zipWith
        (fun possible identifier =>
          identifier ++ ": "
            ++ generator.selectionText (generator.namedPath possible))
        possibleTypes identifiers)
      ++ generator.resultText "T"
  body :=
    "self.fragments(vec!["
      ++ ", ".intercalate (identifiers.map fun identifier =>
        generator.runtime ++ "::Case::new(" ++ identifier ++ ")")
      ++ "])"

/-- The trait of a type and its implementation for the handle, method by method. -/
def traitText (typeName path : String) (methods : List MethodText) : String :=
  "\n".intercalate
    ["/// Field accessors of " ++ linkText typeName path ++ ".",
      "pub trait " ++ typeName ++ "Fields" ++ " \x7b",
      "\n\n".intercalate (methods.map MethodText.declaration),
      "\x7d",
      "",
      "#[allow(deprecated)]",
      "impl " ++ typeName ++ "Fields" ++ " for " ++ generator.runtime
        ++ "::Fields<'_, " ++ path ++ "> \x7b",
      "\n\n".intercalate (methods.map MethodText.implementation),
      "\x7d"]

/-- An input structure and its literal, around the lines of its fields. -/
def inputText (name : String) (description : Option String)
    (declarations calls : List String) : String :=
  let identifier := generator.policy.typeIdentifier name
  Text.joinLines
    (typeLines name description
      ++ ["#[derive(Debug, Clone, PartialEq)]",
          "pub struct " ++ identifier ++ " \x7b",
          Text.joinLines declarations,
          "\x7d",
          "",
          "#[allow(deprecated)]",
          "impl " ++ generator.runtime ++ "::IntoArgument for " ++ identifier
            ++ " \x7b",
          "    fn to_argument(&self) -> " ++ generator.runtime
            ++ "::ArgumentValue \x7b",
          "        " ++ generator.runtime ++ "::Arguments::new()"]
      ++ calls
      ++ ["            .into_object()",
          "    \x7d",
          "\x7d"])

def declarationText (field : InputValue) (identifier : String) : String :=
  Text.joinLines
    (memberLines margin field.toMember
      ++ [margin ++ "pub " ++ identifier ++ ": "
        ++ (generator.inputFieldType field.type).text ++ ","])

def callText (field : InputValue) (identifier : String) : String :=
  "            "
    ++ forwardText (generator.inputFieldType field.type) field.name
      ("self." ++ identifier)

theorem text_eq_forwardText {type : TypeExpr} {name identifier : String}
    (named : isName name = true) :
    PassedArgument.text ⟨name, identifier, type.isOption⟩ =
      forwardText type name identifier := by
  rw [PassedArgument.text, PassedArgument.call, forwardText,
    Text.quoted_of_isName named]

theorem argumentsText_eq {arguments : List InputValue}
    (named : ∀ argument ∈ arguments,
      isName argument.name = true ∧ isName argument.type.baseName = true) :
    TypedGraphQL.argumentsText generator.runtime
        (generator.passedArguments arguments) =
      generator.argumentsText arguments
        (generator.fieldIdentifiers (arguments.map (·.name))) := by
  rw [TypedGraphQL.argumentsText, argumentsText, passedArguments,
    List.map_zipWith]
  refine congrArg (_ ++ String.join ·) (zipWith_congr fun argument member _ => ?_)
  obtain ⟨argumentNamed, typeNamed⟩ := named argument member
  rw [← isOption_valueType typeNamed, text_eq_forwardText argumentNamed]

theorem parameterTexts_eq (arguments : List InputValue) :
    "&mut self" ::
        (generator.argumentParameters arguments).map
          (Parameter.text generator.runtime) =
      generator.parameterTexts arguments
        (generator.fieldIdentifiers (arguments.map (·.name))) := by
  rw [parameterTexts, argumentParameters, List.map_zipWith]
  rfl

/-! Accessors -/

theorem text_selection (identifier : String) (scope : TypeExpr) :
    Parameter.text generator.runtime ⟨identifier, .selection scope⟩ =
      identifier ++ ": " ++ generator.selectionText scope.text :=
  rfl

@[simp]
theorem name_fieldMethod (field : Field) (name : String)
    (identifiers : List String) :
    (generator.fieldMethod field name identifiers).name = name := by
  rw [fieldMethod]
  split <;> rfl

theorem isOf_fieldMethod {field : Field} (name : String)
    (named : ∀ name ∈ field.names ++ field.references, isName name = true) :
    MethodText.IsOf generator.runtime (generator.fieldAccessor field name)
      (generator.fieldMethod field name
        (generator.fieldIdentifiers (field.arguments.map (·.name)))) := by
  simp only [Field.names, Field.references, List.forall_mem_append,
    List.forall_mem_cons, List.forall_mem_map] at named
  obtain ⟨⟨fieldNamed, argumentsNamed⟩, -, typesNamed⟩ := named
  have passed := generator.argumentsText_eq
    fun argument member => ⟨argumentsNamed argument member, typesNamed argument member⟩
  have parameters := generator.parameterTexts_eq field.arguments
  rw [fieldAccessor, fieldMethod, ← passed, ← parameters,
    ← Text.quoted_of_isName fieldNamed]
  split
  · refine MethodText.isOf rfl ?_ rfl
    delta Accessor.signature MethodText.signature resultText
    dsimp only [AccessorBody.typeParameters, AccessorBody.result]
    simp only [String.append_assoc, String.empty_append]
  · refine MethodText.isOf rfl ?_ rfl
    delta Accessor.signature MethodText.signature resultText
    dsimp only [AccessorBody.typeParameters, AccessorBody.result]
    rw [List.map_append]
    simp only [String.append_assoc]
    rfl

theorem isOf_caseMethod (typeName path : String) (possibleTypes : List String) :
    MethodText.IsOf generator.runtime
      (generator.caseAccessor typeName path possibleTypes)
      (generator.caseMethod typeName path possibleTypes
        (generator.fieldIdentifiers possibleTypes)) := by
  refine MethodText.isOf ?_ ?_ rfl
  · have indented : margin ++ "/// Selects one branch per concrete type of " =
        "    /// Selects one branch per concrete type of " := by decide
    rw [caseAccessor, caseMethod, indented]
    rfl
  · delta Accessor.signature MethodText.signature caseAccessor caseMethod resultText
    dsimp only [AccessorBody.typeParameters, AccessorBody.result]
    simp only [List.map_zipWith, text_selection, TypeExpr.text,
      String.append_assoc]
    rfl

/-! Traits and input structures -/

def fieldMethods (fields : List Field) : List MethodText :=
  List.zipWith
    (fun field name =>
      generator.fieldMethod field name
        (generator.fieldIdentifiers (field.arguments.map (·.name))))
    fields (generator.fieldIdentifiers (fields.map (·.name)))

def caseMethods (typeName : String) (place : Section)
    (possibleTypes : List String) : List MethodText :=
  if place = .interfaces ∨ place = .unions then
    [generator.caseMethod typeName
      (itemPath place (generator.policy.typeIdentifier typeName)) possibleTypes
      (generator.fieldIdentifiers possibleTypes)]
  else []

theorem code_eq_traitText {accessorTrait : AccessorTrait}
    {methods : List MethodText}
    (each : List.Forall₂ (MethodText.IsOf generator.runtime)
      accessorTrait.accessors methods) :
    accessorTrait.code generator.runtime =
      generator.traitText accessorTrait.typeName accessorTrait.path methods := by
  have texts : accessorTrait.accessors.map (Accessor.declaration generator.runtime) =
        methods.map MethodText.declaration ∧
      accessorTrait.accessors.map (Accessor.implementation generator.runtime) =
        methods.map MethodText.implementation := by
    generalize accessorTrait.accessors = accessors at each
    induction each with
    | nil => exact ⟨rfl, rfl⟩
    | cons own _ ih =>
        simp only [List.map_cons, own.declaration, own.implementation, ih.1, ih.2,
          and_self]
  rw [AccessorTrait.code, texts.1, texts.2]
  rfl

theorem code_accessorTrait {fields : List Field} (typeName : String)
    (place : Section) (possibleTypes : List String)
    (named : ∀ field ∈ fields, ∀ name ∈ field.names ++ field.references,
      isName name = true) :
    (generator.accessorTrait typeName place fields possibleTypes).code
        generator.runtime =
      generator.traitText typeName
        (itemPath place (generator.policy.typeIdentifier typeName))
        (generator.fieldMethods fields
          ++ generator.caseMethods typeName place possibleTypes) := by
  refine generator.code_eq_traitText (List.rel_append ?_ ?_)
  · exact forall₂_zipWith_zipWith fun field member name =>
      generator.isOf_fieldMethod name (named field member)
  · rw [caseMethods]
    split
    · exact .cons (generator.isOf_caseMethod _ _ possibleTypes) .nil
    · exact .nil

theorem names_fieldMethods (fields : List Field) :
    (generator.fieldMethods fields).map (·.name) =
      generator.fieldIdentifiers (fields.map (·.name)) := by
  have complete := (generator.isScope_methods (fields.map (·.name))).complete
  rw [List.length_map] at complete
  rw [fieldMethods, List.map_zipWith]
  simp only [name_fieldMethod]
  exact List.map_zip_eq_zipWith.symm.trans (List.map_snd_zip complete.le)

theorem not_mem_of_mem_fieldMethods {fields : List Field} {method : MethodText}
    (member : method ∈ generator.fieldMethods fields) :
    method.name ∉
      ["is_recording", "leaf", "composite", "include", "typename", "fragments",
        "on"] := by
  refine (generator.isScope_methods (fields.map (·.name))).free method.name ?_
  rw [← names_fieldMethods]
  exact List.mem_map_of_mem member

theorem name_of_mem_caseMethods {typeName : String} {place : Section}
    {possibleTypes : List String} {method : MethodText}
    (member : method ∈ generator.caseMethods typeName place possibleTypes) :
    method.name = "on" := by
  rw [caseMethods] at member
  split at member
  · rw [List.mem_singleton.mp member, caseMethod]
  · contradiction

theorem nodup_names (typeName : String) (place : Section) (fields : List Field)
    (possibleTypes : List String) :
    ((generator.fieldMethods fields
      ++ generator.caseMethods typeName place possibleTypes).map
        (·.name)).Nodup := by
  rw [List.map_append, List.nodup_append, names_fieldMethods]
  refine ⟨IdentifierPolicy.nodup_unique _, ?_, ?_⟩
  · rw [caseMethods]
    split <;> simp
  · rw [← names_fieldMethods]
    refine List.forall_mem_map.mpr fun ofField inFields => ?_
    refine List.forall_mem_map.mpr fun ofCases inCases same => ?_
    have other := generator.not_mem_of_mem_fieldMethods inFields
    rw [same, generator.name_of_mem_caseMethods inCases] at other
    exact other (by decide)

theorem inputObject_eq {fields : List InputValue} (name : String)
    (description : Option String)
    (named : ∀ field ∈ fields,
      isName field.name = true ∧ isName field.type.baseName = true) :
    let identifiers := generator.fieldIdentifiers (fields.map (·.name))
    generator.inputObject name description fields =
      generator.inputText name description
        (List.zipWith generator.declarationText fields identifiers)
        (List.zipWith generator.callText fields identifiers) := by
  intro identifiers
  have calls : (generator.passedArguments fields).map PassedArgument.fieldText =
      List.zipWith generator.callText fields identifiers := by
    rw [passedArguments, List.map_zipWith]
    refine zipWith_congr fun field member identifier => ?_
    obtain ⟨fieldNamed, typeNamed⟩ := named field member
    rw [callText, forwardText, isOption_inputFieldType typeNamed,
      ← Text.quoted_of_isName fieldNamed]
    delta PassedArgument.fieldText PassedArgument.call
    simp only [String.append_assoc]
    rfl
  delta inputObject
  dsimp only
  rw [calls, inputFields, List.map_zipWith]
  rfl

/--
The trait of a type, as it is written: its methods are distinct and none of the
handle's; the accessor of a field has one parameter for each argument and passes
each on once, in order and under its own name, and `on` has a parameter and a
case for each possible type.  The fields of an input structure are distinct as
well, and become its literal in the same way.
-/
theorem arguments_forwarded (generator : Generator) (typeName : String)
    (place : Section) {fields : List Field} (possibleTypes : List String)
    (inputDescription : Option String) {inputs : List InputValue}
    (named : ∀ field ∈ fields, ∀ name ∈ field.names ++ field.references,
      isName name = true)
    (inputsNamed : ∀ input ∈ inputs,
      isName input.name = true ∧ isName input.type.baseName = true) :
    (∃ ofFields ofCases : List MethodText,
      (generator.accessorTrait typeName place fields possibleTypes).code
            generator.runtime =
          generator.traitText typeName
            (itemPath place (generator.policy.typeIdentifier typeName))
            (ofFields ++ ofCases) ∧
        ((ofFields ++ ofCases).map (·.name)).Nodup ∧
        (∀ method ∈ ofFields ++ ofCases, method.name ∉
          ["is_recording", "leaf", "composite", "include", "typename",
            "fragments"]) ∧
        List.Forall₂
          (fun field method => ∃ identifiers,
            IsScope ["self", "selection"] (field.arguments.map (·.name))
                identifiers ∧
              method = generator.fieldMethod field method.name identifiers)
          fields ofFields ∧
        if place = .interfaces ∨ place = .unions then
          ∃ identifiers,
            IsScope ["self", "selection"] possibleTypes identifiers ∧
              ofCases = [generator.caseMethod typeName
                (itemPath place (generator.policy.typeIdentifier typeName))
                possibleTypes identifiers]
        else ofCases = []) ∧
      ∃ identifiers,
        IsScope ["self", "selection"] (inputs.map (·.name)) identifiers ∧
          generator.inputObject typeName inputDescription inputs =
            generator.inputText typeName inputDescription
              (List.zipWith generator.declarationText inputs identifiers)
              (List.zipWith generator.callText inputs identifiers) := by
  have complete := (generator.isScope_methods (fields.map (·.name))).complete
  constructor
  · refine ⟨_, _, generator.code_accessorTrait typeName place possibleTypes named,
      generator.nodup_names typeName place fields possibleTypes, ?_, ?_, ?_⟩
    · refine List.forall_mem_append.mpr ⟨fun method member taken => ?_, ?_⟩
      · exact generator.not_mem_of_mem_fieldMethods member
          (List.mem_append_left ["on"] taken)
      · intro method member
        rw [generator.name_of_mem_caseMethods member]
        decide
    · refine forall₂_zipWith (fun field name => ?_) (by simpa using complete)
      exact ⟨_, generator.isScope_parameters _,
        by rw [name_fieldMethod]⟩
    · rw [caseMethods]
      split
      · exact ⟨_, generator.isScope_parameters possibleTypes, rfl⟩
      · rfl
  · exact ⟨_, generator.isScope_parameters _,
      generator.inputObject_eq typeName inputDescription inputsNamed⟩

def collidingFields : List Field :=
  let plain (name : String) : Member := ⟨name, none, false, none⟩
  [⟨plain "bestFriend", .named "Character",
      [⟨plain "self", .nonNull (.named "ID"), none⟩,
        ⟨plain "selection", .named "Episode", none⟩]⟩,
    ⟨plain "best_friend", .named "String", [⟨plain "Self", .named "Int", none⟩]⟩,
    ⟨plain "on", .list (.named "Date"), []⟩]

def collidingInputs : List InputValue :=
  let plain (name : String) : Member := ⟨name, none, false, none⟩
  [⟨plain "type", .named "Filter", none⟩,
    ⟨plain "type_", .nonNull (.named "Date"), none⟩]

theorem arguments_forwarded_colliding :
    (∀ field ∈ collidingFields, ∀ name ∈ field.names ++ field.references,
        isName name = true) ∧
      (∀ input ∈ collidingInputs,
        isName input.name = true ∧ isName input.type.baseName = true) ∧
      (∃ ofFields ofCases : List MethodText,
        ((Generator.mk reviewSchema .standard).accessorTrait "Character" .interfaces
              collidingFields ["Droid"]).code "gqlbind_runtime" =
            (Generator.mk reviewSchema .standard).traitText "Character"
              (itemPath .interfaces
                ((Generator.mk reviewSchema .standard).policy.typeIdentifier
                  "Character"))
              (ofFields ++ ofCases) ∧
          ((ofFields ++ ofCases).map (·.name)).Nodup ∧
          (∀ method ∈ ofFields ++ ofCases, method.name ∉
            ["is_recording", "leaf", "composite", "include", "typename",
              "fragments"]) ∧
          List.Forall₂
            (fun field method => ∃ identifiers,
              IsScope ["self", "selection"] (field.arguments.map (·.name))
                  identifiers ∧
                method = (Generator.mk reviewSchema .standard).fieldMethod field
                  method.name identifiers)
            collidingFields ofFields ∧
          ∃ identifiers, IsScope ["self", "selection"] ["Droid"] identifiers ∧
            ofCases = [(Generator.mk reviewSchema .standard).caseMethod "Character"
              (itemPath .interfaces
                ((Generator.mk reviewSchema .standard).policy.typeIdentifier
                  "Character"))
              ["Droid"] identifiers]) ∧
      ∃ identifiers,
        IsScope ["self", "selection"] ["type", "type_"] identifiers ∧
          (Generator.mk reviewSchema .standard).inputObject "Character" none
              collidingInputs =
            (Generator.mk reviewSchema .standard).inputText "Character" none
              (List.zipWith (Generator.mk reviewSchema .standard).declarationText
                collidingInputs identifiers)
              (List.zipWith (Generator.mk reviewSchema .standard).callText
                collidingInputs identifiers) := by
  have named : ∀ field ∈ collidingFields,
      ∀ name ∈ field.names ++ field.references, isName name = true := by decide
  have inputsNamed : ∀ input ∈ collidingInputs,
      isName input.name = true ∧ isName input.type.baseName = true := by decide
  exact ⟨named, inputsNamed, arguments_forwarded (.mk reviewSchema .standard)
    "Character" .interfaces ["Droid"] none named inputsNamed⟩

example :
    (Generator.mk reviewSchema .standard).fieldIdentifiers
        (collidingFields.map (·.name)) =
      ["best_friend", "best_friend_2", "on_"] := by
  decide +kernel

end Generator

end TypedGraphQL
