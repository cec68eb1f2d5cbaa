import TypedGraphQL.Binding.Attributes
import TypedGraphQL.Binding.TypeExpr

namespace TypedGraphQL

structure UnionCase where
  member : String
  variant : String
deriving DecidableEq, Repr

namespace UnionCase

def declaration (case : UnionCase) : String :=
  margin ++ case.variant ++ ","

def nameArm (unionName : String) (case : UnionCase) : String :=
  "            " ++ unionName ++ "::" ++ case.variant ++ " => "
    ++ Text.quoted case.member ++ ","

def variantArm (unionName : String) (case : UnionCase) : String :=
  "            " ++ Text.quoted case.member ++ " => Some(" ++ unionName ++ "::"
    ++ case.variant ++ "),"

end UnionCase

namespace Generator

def scalarAlias? (generator : Generator) (name : String)
    (description : Option String) : Option String :=
  if builtinScalars.contains name then none
  else
    some (Text.joinLines
      (typeLines name description
        ++ ["pub type " ++ generator.policy.typeIdentifier name ++ " = "
              ++ generator.config.scalarType name ++ ";"]))

def scopeImplementation (generator : Generator) (name : String) : String :=
  Text.joinLines
    ["impl " ++ generator.runtime ++ "::Scope for "
       ++ generator.policy.typeIdentifier name ++ " \x7b",
     "    const TYPE_NAME: &'static str = " ++ Text.quoted name ++ ";",
     "\x7d"]

def marker (generator : Generator) (name : String) (description : Option String) :
    String :=
  Text.joinLines
    (typeLines name description
      ++ ["#[derive(Debug, Clone, Copy, PartialEq, Eq, Hash)]",
          "pub struct " ++ generator.policy.typeIdentifier name ++ ";",
          "",
          generator.scopeImplementation name])

def polymorphism (generator : Generator) (name : String)
    (possibleTypes : List String) : List String :=
  let identifier := generator.policy.typeIdentifier name
  ("impl " ++ generator.runtime ++ "::Polymorphic for " ++ identifier ++ " \x7b\x7d")
    :: possibleTypes.map fun possible =>
      "impl " ++ generator.runtime ++ "::PossibleType<" ++ identifier ++ "> for "
        ++ generator.namedPath possible ++ " \x7b\x7d"

def interfaceMarker (generator : Generator) (name : String)
    (description : Option String) (possibleTypes : List String) : String :=
  Text.joinParagraphs
    (generator.marker name description
      :: generator.polymorphism name possibleTypes)

def unionCases (generator : Generator) (possibleTypes : List String) :
    List UnionCase :=
  List.zipWith UnionCase.mk possibleTypes
    (IdentifierPolicy.unique
      (possibleTypes.map generator.policy.typeIdentifier))

def unionDeclaration (generator : Generator) (name : String)
    (description : Option String) (cases : List UnionCase) : String :=
  Text.joinLines
    (typeLines name description
      ++ ["#[derive(Debug, Clone, Copy, PartialEq, Eq, Hash)]",
          "pub enum " ++ generator.policy.typeIdentifier name ++ " \x7b",
          Text.joinLines (cases.map UnionCase.declaration),
          "\x7d"])

def unionNames (generator : Generator) (name : String) (cases : List UnionCase) :
    String :=
  let unionName := generator.policy.typeIdentifier name
  Text.joinLines
    (["impl " ++ unionName ++ " \x7b",
      "    /// `__typename` of the member.",
      "    pub fn typename(&self) -> &'static str \x7b",
      "        match *self \x7b"]
      ++ cases.map (UnionCase.nameArm unionName)
      ++ ["        \x7d",
          "    \x7d",
          "",
          "    pub fn from_typename(typename: &str) -> Option<Self> \x7b",
          "        match typename \x7b"]
      ++ cases.map (UnionCase.variantArm unionName)
      ++ ["            _ => None,",
          "        \x7d",
          "    \x7d",
          "\x7d"])

def unionMarker (generator : Generator) (name : String)
    (description : Option String) (possibleTypes : List String) : String :=
  let cases := generator.unionCases possibleTypes
  Text.joinParagraphs
    ([generator.unionDeclaration name description cases,
      generator.unionNames name cases,
      generator.scopeImplementation name]
      ++ generator.polymorphism name possibleTypes)

end Generator

end TypedGraphQL
