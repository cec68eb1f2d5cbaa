import TypedGraphQL.Schema.Basic
import TypedGraphQL.Schema.Error

namespace TypedGraphQL

def Field.references (field : Field) : List String :=
  field.type.baseName :: field.arguments.map (·.type.baseName)

/-- The names that a type refers to, in the order of its declaration. -/
def TypeBody.references : TypeBody → List String
  | scalar | enum _ => []
  | object fields interfaces => fields.flatMap Field.references ++ interfaces
  | interface fields possibleTypes =>
    fields.flatMap Field.references ++ possibleTypes
  | union possibleTypes => possibleTypes
  | inputObject fields => fields.map (·.type.baseName)

structure Schema where
  types : List NamedType
  roots : RootTypes
deriving DecidableEq, Repr

namespace Schema

def firstRepeated? (before : List String) : List String → Option String
  | [] => none
  | name :: rest =>
    if before.contains name then some name
    else firstRepeated? (name :: before) rest

def get? (schema : Schema) (name : String) : Option NamedType :=
  schema.types.find? (·.name == name)

/-- The kind of a name; built-in scalars need no declaration. -/
def kindOf? (schema : Schema) (name : String) : Option TypeKind :=
  match schema.get? name with
  | some type => some type.kind
  | none => if builtinScalars.contains name then some .scalar else none

def resolves (schema : Schema) (name : String) : Bool :=
  schema.types.any (·.name == name) || builtinScalars.contains name

def references (schema : Schema) : List String :=
  schema.types.flatMap (·.body.references) ++ schema.roots.names

/-- Refuses the first repeated type name, or else the first name that leads nowhere. -/
def resolve (types : List NamedType) (roots : RootTypes) :
    Except SchemaError Schema :=
  match firstRepeated? [] (types.map (·.name)) with
  | some name => .error (.duplicateType name)
  | none =>
    let schema : Schema := ⟨types, roots⟩
    match schema.references.find? (!schema.resolves ·) with
    | some name => .error (.unresolvedType name)
    | none => .ok schema

end Schema

end TypedGraphQL
