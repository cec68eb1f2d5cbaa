import TypedGraphQL.Binding.Attributes
import TypedGraphQL.Binding.TypeExpr

namespace TypedGraphQL

inductive ParameterType where
  | value (type : TypeExpr)
  | selection (scope : TypeExpr)
deriving DecidableEq, Repr

structure Parameter where
  name : String
  type : ParameterType
deriving DecidableEq, Repr

structure PassedArgument where
  name : String
  identifier : String
  isOptional : Bool
deriving DecidableEq, Repr

inductive AccessorBody where
  | leaf (field : String) (arguments : List PassedArgument) (result : TypeExpr)
  | composite (field : String) (arguments : List PassedArgument)
  | fragments (cases : List String)
deriving DecidableEq, Repr

structure Accessor where
  attributes : List String
  name : String
  parameters : List Parameter
  body : AccessorBody
deriving DecidableEq, Repr

def Parameter.text (runtime : String) (parameter : Parameter) : String :=
  parameter.name ++ ": " ++
    match parameter.type with
    | .value type => type.text
    | .selection scope =>
      "&" ++ runtime ++ "::SelectionSet<T, " ++ scope.text ++ ">"

def PassedArgument.call (argument : PassedArgument) : String :=
  (if argument.isOptional then ".optional(" else ".arg(")
    ++ Text.quoted argument.name

def PassedArgument.text (argument : PassedArgument) : String :=
  argument.call ++ ", &" ++ argument.identifier ++ ")"

def argumentsText (runtime : String) (arguments : List PassedArgument) : String :=
  runtime ++ "::Arguments::new()" ++ String.join (arguments.map PassedArgument.text)

namespace AccessorBody

def text (runtime : String) : AccessorBody → String
  | leaf field arguments _ =>
    "self.leaf(" ++ Text.quoted field ++ ", "
      ++ argumentsText runtime arguments ++ ")"
  | composite field arguments =>
    "self.composite(" ++ Text.quoted field ++ ", "
      ++ argumentsText runtime arguments ++ ", selection)"
  | fragments cases =>
    "self.fragments(vec!["
      ++ ", ".intercalate (cases.map fun case => runtime ++ "::Case::new(" ++ case ++ ")")
      ++ "])"

def typeParameters : AccessorBody → String
  | leaf .. => ""
  | _ => "<T: 'static>"

def result : AccessorBody → String
  | leaf _ _ result => result.text
  | _ => "T"

end AccessorBody

namespace Accessor

def signature (runtime : String) (accessor : Accessor) : String :=
  "fn " ++ accessor.name ++ accessor.body.typeParameters ++ "("
    ++ ", ".intercalate
      ("&mut self" :: accessor.parameters.map (Parameter.text runtime))
    ++ ") -> Result<" ++ accessor.body.result ++ ", " ++ runtime ++ "::DecodeError>"

def declaration (runtime : String) (accessor : Accessor) : String :=
  Text.joinLines
    (accessor.attributes ++ [margin ++ accessor.signature runtime ++ ";"])

def implementation (runtime : String) (accessor : Accessor) : String :=
  Text.joinLines
    [margin ++ accessor.signature runtime ++ " \x7b",
     margin ++ margin ++ accessor.body.text runtime,
     margin ++ "\x7d"]

end Accessor

namespace Generator

def fieldIdentifiers (generator : Generator) (names : List String) : List String :=
  IdentifierPolicy.unique (names.map generator.policy.fieldIdentifier)

def passedArguments (generator : Generator) (arguments : List InputValue) :
    List PassedArgument :=
  List.zipWith
    (fun argument identifier =>
      ⟨argument.name, identifier, !argument.type.isNonNull⟩)
    arguments (generator.fieldIdentifiers (arguments.map (·.name)))

def argumentParameters (generator : Generator) (arguments : List InputValue) :
    List Parameter :=
  List.zipWith
    (fun argument identifier =>
      ⟨identifier, .value (generator.valueType argument.type)⟩)
    arguments (generator.fieldIdentifiers (arguments.map (·.name)))

def fieldAccessor (generator : Generator) (field : Field) (identifier : String) :
    Accessor :=
  let passed := generator.passedArguments field.arguments
  let parameters := generator.argumentParameters field.arguments
  if generator.isLeaf field.type then
    { attributes := memberLines margin field.toMember
      name := identifier
      parameters := parameters
      body := .leaf field.name passed (generator.valueType field.type) }
  else
    { attributes := memberLines margin field.toMember
      name := identifier
      parameters :=
        parameters ++ [⟨"selection", .selection (generator.scopeType field.type)⟩]
      body := .composite field.name passed }

def docLink (typeName path : String) : String :=
  "[`" ++ typeName ++ "`](" ++ path ++ ")"

def caseAccessor (generator : Generator) (typeName path : String)
    (possibleTypes : List String) : Accessor :=
  let identifiers := generator.fieldIdentifiers possibleTypes
  { attributes :=
      [margin ++ "/// Selects one branch per concrete type of "
        ++ docLink typeName path ++ "."]
    name := "on"
    parameters :=
      List.zipWith
        (fun possible identifier =>
          ⟨identifier, .selection (.path (generator.namedPath possible))⟩)
        possibleTypes identifiers
    body := .fragments identifiers }

end Generator

structure AccessorTrait where
  typeName : String
  path : String
  accessors : List Accessor
deriving DecidableEq, Repr

namespace AccessorTrait

def name (accessorTrait : AccessorTrait) : String :=
  accessorTrait.typeName ++ "Fields"

def code (runtime : String) (accessorTrait : AccessorTrait) : String :=
  Text.joinLines
    ["/// Field accessors of "
       ++ Generator.docLink accessorTrait.typeName accessorTrait.path ++ ".",
     "pub trait " ++ accessorTrait.name ++ " \x7b",
     Text.joinParagraphs (accessorTrait.accessors.map (Accessor.declaration runtime)),
     "\x7d",
     "",
     "#[allow(deprecated)]",
     "impl " ++ accessorTrait.name ++ " for " ++ runtime ++ "::Fields<'_, "
       ++ accessorTrait.path ++ "> \x7b",
     Text.joinParagraphs
       (accessorTrait.accessors.map (Accessor.implementation runtime)),
     "\x7d"]

end AccessorTrait

namespace Generator

def fieldAccessors (generator : Generator) (fields : List Field) : List Accessor :=
  List.zipWith generator.fieldAccessor fields
    (generator.fieldIdentifiers (fields.map (·.name)))

/-- Only interfaces and unions have concrete types to choose from. -/
def accessorTrait (generator : Generator) (typeName : String) (place : Section)
    (fields : List Field) (possibleTypes : List String) : AccessorTrait :=
  let path := itemPath place (generator.policy.typeIdentifier typeName)
  { typeName := typeName
    path := path
    accessors :=
      generator.fieldAccessors fields
        ++ (if place = .interfaces ∨ place = .unions then
            [generator.caseAccessor typeName path possibleTypes]
          else []) }

end Generator

end TypedGraphQL
