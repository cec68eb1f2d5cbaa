import TypedGraphQL.Binding.Config
import TypedGraphQL.Binding.Identifier
import TypedGraphQL.Binding.Section
import TypedGraphQL.Schema.Resolved

namespace TypedGraphQL

inductive TypeExpr where
  | path (text : String)
  | generic (head : String) (argument : TypeExpr)
deriving DecidableEq, Repr

def TypeExpr.text : TypeExpr → String
  | path text => text
  | generic head argument => head ++ "<" ++ argument.text ++ ">"

structure Generator where
  schema : Schema
  config : Config
deriving Repr

def builtinType? (name : String) : Option String :=
  if name = "Int" then some "i32"
  else if name = "Float" then some "f64"
  else if name = "String" ∨ name = "ID" then some "String"
  else if name = "Boolean" then some "bool"
  else none

def itemPath (place : Section) (identifier : String) : String :=
  "super::" ++ place.moduleName ++ "::" ++ identifier

namespace Generator

def policy (generator : Generator) : IdentifierPolicy :=
  IdentifierPolicy.standard.withReservedWords generator.config.reservedWords

def runtime (generator : Generator) : String :=
  generator.config.runtime

def sectionOf? (generator : Generator) (name : String) : Option Section :=
  (generator.schema.kindOf? name).map Section.ofKind

/-- The path of a named type; a name that leads nowhere stands for itself. -/
def namedPath (generator : Generator) (name : String) : String :=
  match builtinType? name with
  | some builtin => builtin
  | none =>
    let identifier := generator.policy.typeIdentifier name
    match generator.sectionOf? name with
    | some place => itemPath place identifier
    | none => identifier

mutual
def valueType (generator : Generator) : TypeRef → TypeExpr
  | .nonNull inner => generator.presentValueType inner
  | .named name => .generic "Option" (.path (generator.namedPath name))
  | .list element =>
    .generic "Option" (.generic "Vec" (generator.valueType element))

def presentValueType (generator : Generator) : TypeRef → TypeExpr
  | .named name => .path (generator.namedPath name)
  | .list element => .generic "Vec" (generator.valueType element)
  | .nonNull inner => generator.presentValueType inner
end

mutual
def scopeType (generator : Generator) : TypeRef → TypeExpr
  | .nonNull inner => generator.presentScopeType inner
  | .named name =>
    .generic (generator.runtime ++ "::Nullable")
      (.path (generator.namedPath name))
  | .list element =>
    .generic (generator.runtime ++ "::Nullable")
      (.generic (generator.runtime ++ "::List") (generator.scopeType element))

def presentScopeType (generator : Generator) : TypeRef → TypeExpr
  | .named name => .path (generator.namedPath name)
  | .list element =>
    .generic (generator.runtime ++ "::List") (generator.scopeType element)
  | .nonNull inner => generator.presentScopeType inner
end

/-- A directly nullable input object is boxed, so that input types may contain themselves. -/
def inputFieldType (generator : Generator) (type : TypeRef) : TypeExpr :=
  match type with
  | .named name =>
    if generator.schema.kindOf? name = some .inputObject then
      .generic "Option" (.generic "Box" (.path (generator.namedPath name)))
    else generator.valueType type
  | _ => generator.valueType type

def isLeaf (generator : Generator) (type : TypeRef) : Bool :=
  match generator.schema.kindOf? type.baseName with
  | some .scalar | some .enum | none => true
  | _ => false

end Generator

end TypedGraphQL
