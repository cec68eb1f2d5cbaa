import TypedGraphQL.Json.Basic

namespace TypedGraphQL

inductive DecodeError where
  | missingField (key : String)
  | typeMismatch (field expected got : String)
  | unknownVariant (typeName : String)
  | nullNonNullable (field : String)
deriving DecidableEq, Repr

namespace DecodeError

def mismatch (field expected : String) (got : Json) : DecodeError :=
  typeMismatch field expected got.kind

def message : DecodeError → String
  | missingField key => "missing field `" ++ key ++ "` in response"
  | typeMismatch field expected got =>
    "type mismatch at `" ++ field ++ "`: expected " ++ expected ++ ", got " ++ got
  | unknownVariant typeName =>
    "no fragment registered for concrete type `" ++ typeName ++ "`"
  | nullNonNullable field =>
    "field `" ++ field ++ "` is non-nullable but the response contains null"

end DecodeError

end TypedGraphQL
