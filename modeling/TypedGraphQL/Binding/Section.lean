import TypedGraphQL.Schema.Basic

namespace TypedGraphQL

inductive Section where
  | scalars
  | enums
  | objects
  | interfaces
  | unions
  | inputs
  | fields
  | operations
deriving DecidableEq, Repr

namespace Section

def all : List Section :=
  [scalars, enums, objects, interfaces, unions, inputs, fields, operations]

def moduleName : Section → String
  | scalars => "scalars"
  | enums => "enums"
  | objects => "objects"
  | interfaces => "interfaces"
  | unions => "unions"
  | inputs => "inputs"
  | fields => "fields"
  | operations => "operations"

def ofKind : TypeKind → Section
  | .scalar => scalars
  | .enum => enums
  | .object => objects
  | .interface => interfaces
  | .union => unions
  | .inputObject => inputs

end Section

structure Block where
  place : Section
  code : String
deriving DecidableEq, Repr

end TypedGraphQL
