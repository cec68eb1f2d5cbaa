namespace TypedGraphQL

/-- A reference to a type, nullable unless wrapped in `nonNull`. -/
inductive TypeRef where
  | named (name : String)
  | nonNull (inner : TypeRef)
  | list (element : TypeRef)
deriving DecidableEq, Repr

namespace TypeRef

def baseName : TypeRef → String
  | named name => name
  | nonNull inner => inner.baseName
  | list element => element.baseName

def isNonNull : TypeRef → Bool
  | nonNull _ => true
  | _ => false

end TypeRef

inductive TypeKind where
  | scalar
  | object
  | interface
  | union
  | enum
  | inputObject
deriving DecidableEq, Repr

structure Member where
  name : String
  description : Option String
  isDeprecated : Bool
  deprecationReason : Option String
deriving DecidableEq, Repr

abbrev EnumValue := Member

structure InputValue extends Member where
  type : TypeRef
  defaultValue : Option String
deriving DecidableEq, Repr

structure Field extends Member where
  type : TypeRef
  arguments : List InputValue
deriving DecidableEq, Repr

inductive TypeBody where
  | scalar
  | object (fields : List Field) (interfaces : List String)
  | interface (fields : List Field) (possibleTypes : List String)
  | union (possibleTypes : List String)
  | enum (values : List EnumValue)
  | inputObject (fields : List InputValue)
deriving DecidableEq, Repr

def TypeBody.kind : TypeBody → TypeKind
  | scalar => .scalar
  | object .. => .object
  | interface .. => .interface
  | union .. => .union
  | enum .. => .enum
  | inputObject .. => .inputObject

structure NamedType where
  name : String
  description : Option String
  body : TypeBody
deriving DecidableEq, Repr

def NamedType.kind (type : NamedType) : TypeKind :=
  type.body.kind

structure RootTypes where
  query : Option String
  mutation : Option String
  subscription : Option String
deriving DecidableEq, Repr

def RootTypes.names (roots : RootTypes) : List String :=
  roots.query.toList ++ roots.mutation.toList ++ roots.subscription.toList

def builtinScalars : List String :=
  ["Int", "Float", "String", "Boolean", "ID"]

end TypedGraphQL
