import TypedGraphQL.Binding.Attributes
import TypedGraphQL.Binding.TypeExpr

namespace TypedGraphQL

structure EnumCase where
  value : EnumValue
  variant : String
deriving DecidableEq, Repr

namespace EnumCase

def declaration (case : EnumCase) : String :=
  Text.joinLines
    (memberLines margin case.value
      ++ [margin ++ "#[serde(rename = " ++ Text.quoted case.value.name ++ ")]",
          margin ++ case.variant ++ ","])

def nameArm (enumName : String) (case : EnumCase) : String :=
  "            " ++ enumName ++ "::" ++ case.variant ++ " => "
    ++ Text.quoted case.value.name ++ ","

end EnumCase

namespace Generator

def enumCases (generator : Generator) (values : List EnumValue) : List EnumCase :=
  List.zipWith EnumCase.mk values
    (IdentifierPolicy.unique
      (values.map (generator.policy.variantIdentifier ·.name)))

def enumDeclaration (generator : Generator) (name : String)
    (description : Option String) (values : List EnumValue) : String :=
  Text.joinLines
    (typeLines name description
      ++ ["#[derive(Debug, Clone, Copy, PartialEq, Eq, Hash, Serialize, Deserialize)]",
          "#[serde(crate = " ++ Text.quoted (generator.runtime ++ "::serde") ++ ")]",
          "pub enum " ++ generator.policy.typeIdentifier name ++ " \x7b",
          Text.joinParagraphs
            ((generator.enumCases values).map EnumCase.declaration),
          "\x7d"])

def enumNames (generator : Generator) (name : String) (cases : List EnumCase) :
    String :=
  let enumName := generator.policy.typeIdentifier name
  Text.joinLines
    (["#[allow(deprecated)]",
      "impl " ++ enumName ++ " \x7b",
      "    pub const ALL: &'static [" ++ enumName ++ "] = &["
        ++ ", ".intercalate (cases.map fun case => enumName ++ "::" ++ case.variant)
        ++ "];",
      "",
      "    /// The value as it appears in the schema.",
      "    pub fn as_str(&self) -> &'static str \x7b",
      "        match *self \x7b"]
      ++ cases.map (EnumCase.nameArm enumName)
      ++ ["        \x7d",
          "    \x7d",
          "\x7d"])

/-- The first value stands in while requests are recorded. -/
def enumLeaf (generator : Generator) (name : String) (first : EnumCase) : String :=
  let enumName := generator.policy.typeIdentifier name
  Text.joinLines
    ["#[allow(deprecated)]",
     "impl " ++ generator.runtime ++ "::Leaf for " ++ enumName ++ " \x7b",
     "    fn placeholder() -> Self \x7b",
     "        " ++ enumName ++ "::" ++ first.variant,
     "    \x7d",
     "\x7d"]

def enumArgument (generator : Generator) (name : String) : String :=
  let runtime := generator.runtime
  Text.joinLines
    ["impl " ++ runtime ++ "::IntoArgument for "
       ++ generator.policy.typeIdentifier name ++ " \x7b",
     "    fn to_argument(&self) -> " ++ runtime ++ "::ArgumentValue \x7b",
     "        " ++ runtime ++ "::ArgumentValue::Enum(self.as_str().to_string())",
     "    \x7d",
     "\x7d"]

def enumImplementation (generator : Generator) (name : String)
    (values : List EnumValue) : String :=
  let cases := generator.enumCases values
  Text.joinParagraphs
    ([generator.enumNames name cases]
      ++ (cases.head?.map (generator.enumLeaf name)).toList
      ++ [generator.enumArgument name])

end Generator

end TypedGraphQL
