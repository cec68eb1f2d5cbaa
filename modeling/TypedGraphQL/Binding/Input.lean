import TypedGraphQL.Binding.Accessor

namespace TypedGraphQL

structure InputField where
  attributes : List String
  identifier : String
  type : TypeExpr
deriving DecidableEq, Repr

def InputField.declaration (field : InputField) : String :=
  Text.joinLines
    (field.attributes
      ++ [margin ++ "pub " ++ field.identifier ++ ": " ++ field.type.text ++ ","])

def PassedArgument.fieldText (argument : PassedArgument) : String :=
  "            " ++ argument.call ++ ", &self." ++ argument.identifier ++ ")"

namespace Generator

def inputFields (generator : Generator) (fields : List InputValue) :
    List InputField :=
  List.zipWith
    (fun field identifier =>
      ⟨memberLines margin field.toMember, identifier,
        generator.inputFieldType field.type⟩)
    fields (generator.fieldIdentifiers (fields.map (·.name)))

def inputObject (generator : Generator) (name : String)
    (description : Option String) (fields : List InputValue) : String :=
  let identifier := generator.policy.typeIdentifier name
  let runtime := generator.runtime
  Text.joinLines
    (typeLines name description
      ++ ["#[derive(Debug, Clone, PartialEq)]",
          "pub struct " ++ identifier ++ " \x7b",
          Text.joinLines ((generator.inputFields fields).map InputField.declaration),
          "\x7d",
          "",
          "#[allow(deprecated)]",
          "impl " ++ runtime ++ "::IntoArgument for " ++ identifier ++ " \x7b",
          "    fn to_argument(&self) -> " ++ runtime ++ "::ArgumentValue \x7b",
          "        " ++ runtime ++ "::Arguments::new()"]
      ++ (generator.passedArguments fields).map PassedArgument.fieldText
      ++ ["            .into_object()",
          "    \x7d",
          "\x7d"])

end Generator

end TypedGraphQL
